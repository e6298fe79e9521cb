import CallCenter.SipHandler.Values
import CallCenter.SipHandler.Dispatch

/-! # Responses

    What `sip_generate_response` prints for a request that was accepted, and
    what comes back when the text is parsed again.

    * Section 1: accepted requests and their header fields.
    * Section 2: the printed block and start line.
    * Section 3: a response survives its own parser (`response_parses_back`).
    * Section 4: the `Via` lines of the request (`via_carried_iff`). -/

namespace SipHandler

open CFormat CMemory LuaUtils

/-! ## Section 1: Accepted requests -/

/-- The datagram is accepted as a request and parsed to `m`. -/
structure AcceptedRequest (bytes : List UInt8) (m : SipMessage) : Prop where
  nonempty : 1 ≤ bytes.length
  fits : bytes.length < sipMaxRawLen
  parsed : sipParseMessage (bytes ++ [0]) bytes.length .zero = .ok (.ok, m)
  valid : sipValidateMessage m = 0
  request : m.statusCode.toInt ≤ 0

/-- A reason phrase: a C string on one line. -/
structure ReasonPhrase where
  bytes : CStr
  noNul : 0 ∉ bytes
  noCr : 13 ∉ bytes
  noLf : 10 ∉ bytes

/-- The lines behind the start line. -/
def headerBlock (bytes : List UInt8) : List UInt8 :=
  ((splitOn crlf bytes).map Prod.snd).getD []

theorem headerBlock_line {line : List UInt8} (hcrlf : splitOn crlf line = none)
    (block : List UInt8) : headerBlock (line ++ crlf ++ block) = block := by
  unfold headerBlock
  rw [splitOn_crlf hcrlf]
  rfl

variable {bytes : List UInt8} {m : SipMessage}

theorem AcceptedRequest.datagram (h : AcceptedRequest bytes m) :
    ∃ line block start, DatagramParsed bytes line block start m := by
  obtain ⟨r, hparse, -, hdata⟩ := sipParseMessage_spec h.nonempty .zero
  rw [h.parsed] at hparse
  obtain rfl := Except.ok.inj hparse
  exact hdata rfl

/-- The fields of a parsed datagram. -/
theorem DatagramParsed.headerText {line block : List UInt8} {start : SipMessage}
    (hdata : DatagramParsed bytes line block start m) (k : TextHeader) :
    m.headerText k =
      ((headerValues k.key (headerBlock bytes)).getLast?.map (storedText k.cap)).getD [] := by
  obtain ⟨m', body, hparsed, hheader, -⟩ := hdata.block.parsed
  have hzero : start.headerText k = [] := by
    unfold SipMessage.headerText
    rw [hdata.onlyLine.header]
    exact CharArray.cstring_zero
  have hsame : m.headerText k = m'.headerText k := by
    unfold SipMessage.headerText
    rw [hheader]
  rw [hsame, hparsed.headerText k, hzero, hdata.bytes_eq, headerBlock_line hdata.noCrlf]

theorem AcceptedRequest.headerText (h : AcceptedRequest bytes m) (k : TextHeader) :
    m.headerText k =
      ((headerValues k.key (headerBlock bytes)).getLast?.map (storedText k.cap)).getD [] := by
  obtain ⟨line, block, start, hdata⟩ := h.datagram
  exact hdata.headerText k

theorem AcceptedRequest.values_spec (h : AcceptedRequest bytes m) (key : CStr) :
    ∀ v ∈ headerValues key (headerBlock bytes), ¬ crlf <:+: v ∧ v.head? ≠ some 32 := by
  obtain ⟨line, block, start, hdata⟩ := h.datagram
  obtain ⟨m', body, hparsed, -, -⟩ := hdata.block.parsed
  rw [hdata.bytes_eq, headerBlock_line hdata.noCrlf]
  exact hparsed.values_spec key

theorem AcceptedRequest.fieldText (h : AcceptedRequest bytes m) (k : TextHeader) :
    FieldText (k.cap - 1) (m.headerText k) := by
  rw [h.headerText k]
  cases hlast : (headerValues k.key (headerBlock bytes)).getLast? with
  | none => exact fieldText_nil _
  | some v =>
    obtain ⟨hcrlf, hspace⟩ := h.values_spec k.key v (List.mem_of_getLast? hlast)
    exact storedText_fieldText k.cap hcrlf hspace

/-- A request has the four fields that `sip_validate_message` asks for. -/
theorem AcceptedRequest.present (h : AcceptedRequest bytes m) :
    ∀ k ∈ [TextHeader.callId, .fromHdr, .toHdr, .cseq], m.headerText k ≠ [] := by
  have hvalid := h.valid
  have hnot : ¬ 0 < m.statusCode.toInt := not_lt.mpr h.request
  unfold sipValidateMessage at hvalid
  rw [if_neg hnot] at hvalid
  intro k hk hempty
  simp only [List.mem_cons, List.not_mem_nil, or_false] at hk
  rcases hk with rfl | rfl | rfl | rfl <;> simp [hempty] at hvalid <;>
    (repeat' split at hvalid) <;> simp at hvalid

/-! ## Section 2: The printed text -/

/-- The value that stands behind the name of a header, if it is printed. -/
def responseValue (m : SipMessage) : TextHeader → Option CStr
  | .via => some (headerOr (some m) .via (cstr "SIP/2.0/UDP unknown"))
  | .fromHdr => some (headerOr (some m) .fromHdr (cstr "<sip:unknown>"))
  | .toHdr => some (headerOr (some m) .toHdr (cstr "<sip:unknown>"))
  | .callId => some (headerOr (some m) .callId (cstr "unknown"))
  | .cseq => some (headerOr (some m) .cseq (cstr "0 UNKNOWN"))
  | .contact => none
  | .contentType => none

/-- The block behind the start line. -/
def responseBlock (m : SipMessage) : CStr :=
  headerLine (cstr "Via") (headerOr (some m) .via (cstr "SIP/2.0/UDP unknown")) ++
    (headerLine (cstr "From") (headerOr (some m) .fromHdr (cstr "<sip:unknown>")) ++
      (headerLine (cstr "To") (headerOr (some m) .toHdr (cstr "<sip:unknown>")) ++
        (headerLine (cstr "Call-ID") (headerOr (some m) .callId (cstr "unknown")) ++
          (headerLine (cstr "CSeq") (headerOr (some m) .cseq (cstr "0 UNKNOWN")) ++
            (headerLine (cstr "Content-Length") (cstr "0") ++ crlf)))))

/-- What follows `SIP/2.0` in the start line. -/
def statusBack (statusCode : Int32) (reasonPhrase : Option CStr) : CStr :=
  intText statusCode ++ 32 :: reasonPhrase.getD (cstr "OK")

/-- The start line. -/
def statusLine (statusCode : Int32) (reasonPhrase : Option CStr) : CStr :=
  cstr "SIP/2.0" ++ 32 :: statusBack statusCode reasonPhrase

theorem responseText_eq (m : SipMessage) (statusCode : Int32) (reasonPhrase : Option CStr) :
    responseText (some m) statusCode reasonPhrase =
      statusLine statusCode reasonPhrase ++ crlf ++ responseBlock m := by
  have hsip : cstr "SIP/2.0 " = cstr "SIP/2.0" ++ [32] := by decide
  have hspace : cstr " " = [32] := by decide
  unfold responseText statusLine statusBack responseBlock
  rw [hsip, hspace]
  simp only [List.append_assoc, List.cons_append, List.nil_append]

theorem headerOr_fieldText {k : TextHeader} {default : CStr}
    (hm : FieldText (k.cap - 1) (m.headerText k)) (hdefault : FieldText (k.cap - 1) default) :
    FieldText (k.cap - 1) (headerOr (some m) k default) := by
  unfold headerOr
  dsimp only
  split
  · exact hdefault
  · exact hm

/-- A message whose fields can stand in header lines. -/
def Printable (m : SipMessage) : Prop := ∀ k : TextHeader, FieldText (k.cap - 1) (m.headerText k)

theorem Printable.responseValue (hm : Printable m) {k : TextHeader} {v : CStr}
    (hv : responseValue m k = some v) : FieldText (k.cap - 1) v := by
  cases k with
  | via =>
    obtain rfl := Option.some.inj hv
    exact headerOr_fieldText (hm .via) ⟨by decide, by decide, by decide, by decide⟩
  | fromHdr =>
    obtain rfl := Option.some.inj hv
    exact headerOr_fieldText (hm .fromHdr) ⟨by decide, by decide, by decide, by decide⟩
  | toHdr =>
    obtain rfl := Option.some.inj hv
    exact headerOr_fieldText (hm .toHdr) ⟨by decide, by decide, by decide, by decide⟩
  | callId =>
    obtain rfl := Option.some.inj hv
    exact headerOr_fieldText (hm .callId) ⟨by decide, by decide, by decide, by decide⟩
  | cseq =>
    obtain rfl := Option.some.inj hv
    exact headerOr_fieldText (hm .cseq) ⟨by decide, by decide, by decide, by decide⟩
  | contact => cases hv
  | contentType => cases hv

/-- The values of a name in the printed block, one line after the other. -/
theorem headerValues_responseBlock (hm : Printable m) (key : CStr) :
    headerValues key (responseBlock m) =
      ([(cstr "Via", responseValue m .via), (cstr "From", responseValue m .fromHdr),
        (cstr "To", responseValue m .toHdr), (cstr "Call-ID", responseValue m .callId),
        (cstr "CSeq", responseValue m .cseq), (cstr "Content-Length", some (cstr "0"))].flatMap
        fun p => if strcaseEq p.1 key then p.2.toList else []) := by
  have hvia : FieldText _ (headerOr (some m) .via _) := hm.responseValue (k := .via) rfl
  have hfrom : FieldText _ (headerOr (some m) .fromHdr _) := hm.responseValue (k := .fromHdr) rfl
  have hto : FieldText _ (headerOr (some m) .toHdr _) := hm.responseValue (k := .toHdr) rfl
  have hcall : FieldText _ (headerOr (some m) .callId _) := hm.responseValue (k := .callId) rfl
  have hcseq : FieldText _ (headerOr (some m) .cseq _) := hm.responseValue (k := .cseq) rfl
  have hend : headerValues key crlf = [] := headerValues_blank key []
  unfold responseBlock
  rw [headerValues_headerLine ⟨by decide, by decide, by decide⟩ hvia.noCrlf hvia.noSpace,
    headerValues_headerLine ⟨by decide, by decide, by decide⟩ hfrom.noCrlf hfrom.noSpace,
    headerValues_headerLine ⟨by decide, by decide, by decide⟩ hto.noCrlf hto.noSpace,
    headerValues_headerLine ⟨by decide, by decide, by decide⟩ hcall.noCrlf hcall.noSpace,
    headerValues_headerLine ⟨by decide, by decide, by decide⟩ hcseq.noCrlf hcseq.noSpace,
    headerValues_headerLine ⟨by decide, by decide, by decide⟩ (by decide) (by decide), hend]
  simp [responseValue]

/-- Every header has at most the one value that is printed for it. -/
theorem headerValues_response (hm : Printable m) (k : TextHeader) :
    headerValues k.key (responseBlock m) = (responseValue m k).toList := by
  rw [headerValues_responseBlock hm]
  cases k <;> rfl

theorem contentLength_response (hm : Printable m) :
    headerValues (cstr "Content-Length") (responseBlock m) = [cstr "0"] := by
  rw [headerValues_responseBlock hm]
  rfl

/-! ### The start line -/

/-- The reason phrase that is printed. -/
def reasonBytes (reason : Option ReasonPhrase) : CStr :=
  (reason.map ReasonPhrase.bytes).getD (cstr "OK")

theorem reasonBytes_notMem (reason : Option ReasonPhrase) :
    0 ∉ reasonBytes reason ∧ 13 ∉ reasonBytes reason := by
  cases reason with
  | none => decide
  | some r => exact ⟨r.noNul, r.noCr⟩

variable (statusCode : Int32) (reason : Option ReasonPhrase)

/-- The start line is one line without a NUL. -/
theorem statusLine_clean :
    0 ∉ statusLine statusCode (reason.map ReasonPhrase.bytes) ∧
      splitOn crlf (statusLine statusCode (reason.map ReasonPhrase.bytes)) = none := by
  have hint : ∀ b : UInt8, isDigit b = false → b ≠ 45 → b ∉ intText statusCode := by
    intro b hb hne hmem
    rcases mem_intText hmem with h | h
    · exact hne h
    · rw [hb] at h
      cases h
  obtain ⟨hnul, hcr⟩ := reasonBytes_notMem reason
  have hline : ∀ b : UInt8, isDigit b = false → b ≠ 45 → b ∉ cstr "SIP/2.0 " →
      b ∉ reasonBytes reason → b ∉ statusLine statusCode (reason.map ReasonPhrase.bytes) := by
    intro b hb hne hsip hreason hmem
    have hsplit : statusLine statusCode (reason.map ReasonPhrase.bytes) =
        cstr "SIP/2.0 " ++ (intText statusCode ++ cstr " " ++ reasonBytes reason) := by
      have hsip : cstr "SIP/2.0 " = cstr "SIP/2.0" ++ [32] := by decide
      have hspace : cstr " " = [32] := by decide
      unfold statusLine statusBack reasonBytes
      rw [hsip, hspace]
      simp
    have hspace : b ∉ cstr " " := fun h =>
      hsip ((by decide : cstr " " ⊆ cstr "SIP/2.0 ") h)
    rw [hsplit] at hmem
    simp [hsip, hint b hb hne, hspace, hreason] at hmem
  refine ⟨hline 0 (by decide) (by decide) (by decide) hnul, ?_⟩
  rw [noCrlf_iff]
  have hno := hline 13 (by decide) (by decide) (by decide) hcr
  intro hinfix
  exact hno (List.IsInfix.subset hinfix (by decide))

/-- The status code is read back from the start line. -/
theorem sipParseLine_status {eol : Ptr} (heol : Terminated eol) (msg : SipMessage) :
    sipParseLine (statusLine statusCode (reason.map ReasonPhrase.bytes) ++ eol) msg =
      .ok (.ok, { msg with statusCode := statusCode, method := .unknown }) := by
  have hlen : 7 ≤ (statusLine statusCode (reason.map ReasonPhrase.bytes)).length := by
    unfold statusLine
    rw [List.length_append]
    have hsip : (cstr "SIP/2.0").length = 7 := by decide
    omega
  have hfront : (statusLine statusCode (reason.map ReasonPhrase.bytes)).take 7 =
      cstr "SIP/2.0" := by
    have hsip : (cstr "SIP/2.0").length = 7 := by decide
    unfold statusLine
    rw [← hsip, List.take_left]
  have hspace : NoDigitAhead (32 :: (reasonBytes reason ++ eol)) := by
    intro b hb
    obtain rfl : (32 : UInt8) = b := by simpa using hb
    decide
  have hback : statusBack statusCode (reason.map ReasonPhrase.bytes) ++ eol =
      intText statusCode ++ (32 :: (reasonBytes reason ++ eol)) := by
    simp [statusBack, reasonBytes]
  rw [sipParseLine_eq hlen, hfront, if_pos (by decide)]
  unfold statusLine
  rw [sipParseStatusLine_space (by decide) (by decide) heol, hback,
    atoi_intText_append hspace]

/-! ## Section 3: A response and its parser -/

theorem length_headerLine (key value : CStr) :
    (headerLine key value).length = key.length + value.length + 4 := by
  have hblank : (cstr ": ").length = 2 := by decide
  have hcrlf : crlf.length = 2 := by decide
  unfold headerLine
  rw [List.length_append, List.length_append, List.length_append, hblank, hcrlf]
  omega

/-- The fields of an accepted request and a reason of at most 64 bytes leave
    room in the buffer. -/
theorem response_fits (hm : Printable m) (hreason : (reasonBytes reason).length ≤ 64) :
    (responseText (some m) statusCode (reason.map ReasonPhrase.bytes)).length <
      sipRespBufSize := by
  have hvia : (headerOr (some m) .via _).length ≤ 255 := (hm.responseValue (k := .via) rfl).fits
  have hfrom : (headerOr (some m) .fromHdr _).length ≤ 255 :=
    (hm.responseValue (k := .fromHdr) rfl).fits
  have hto : (headerOr (some m) .toHdr _).length ≤ 255 := (hm.responseValue (k := .toHdr) rfl).fits
  have hcall : (headerOr (some m) .callId _).length ≤ 255 :=
    (hm.responseValue (k := .callId) rfl).fits
  have hcseq : (headerOr (some m) .cseq _).length ≤ 63 :=
    (hm.responseValue (k := .cseq) rfl).fits
  have hcode := length_intText_le statusCode
  have hkeys : (cstr "SIP/2.0").length = 7 ∧ (cstr "Via").length = 3 ∧
      (cstr "From").length = 4 ∧ (cstr "To").length = 2 ∧ (cstr "Call-ID").length = 7 ∧
      (cstr "CSeq").length = 4 ∧ (cstr "Content-Length").length = 14 ∧ (cstr "0").length = 1 ∧
      crlf.length = 2 ∧ sipRespBufSize = 2048 := by decide
  have hline : (statusLine statusCode (reason.map ReasonPhrase.bytes)).length =
      7 + (1 + ((intText statusCode).length + (1 + (reasonBytes reason).length))) := by
    unfold statusLine statusBack reasonBytes
    simp only [List.length_append, List.length_cons, hkeys.1]
    omega
  have hblock : (responseBlock m).length ≤ 1144 := by
    unfold responseBlock
    simp only [List.length_append, length_headerLine]
    omega
  rw [responseText_eq, List.length_append, List.length_append, hline]
  omega

/-- The message that the start line of a response gives. -/
def statusStart : SipMessage :=
  { SipMessage.zero with statusCode := statusCode, method := .unknown }

theorem wf_statusStart : (statusStart statusCode).Wf := { wf_zero with }

/-- The parser takes the response apart where it was put together. -/
theorem response_parsed (m : SipMessage) (init : SipMessage) :
    Ends (sipParseMessage
      (responseText (some m) statusCode (reason.map ReasonPhrase.bytes) ++ [0])
      (responseText (some m) statusCode (reason.map ReasonPhrase.bytes)).length init) fun r =>
      r.1 = .ok ∧ BlockParsed (responseBlock m) (statusStart statusCode) r.2 := by
  obtain ⟨hnul, hcrlf⟩ := statusLine_clean statusCode reason
  have hlen : ¬ (statusLine statusCode (reason.map ReasonPhrase.bytes)).length < 7 := by
    have hsip : (cstr "SIP/2.0").length = 7 := by decide
    unfold statusLine
    rw [List.length_append, hsip]
    omega
  have heol : Terminated (crlf ++ (responseBlock m ++ [0])) := by simp [Terminated]
  rw [responseText_eq, sipParseMessage_line hcrlf hnul, if_neg hlen, List.append_assoc,
    sipParseLine_status statusCode reason heol]
  apply Ends.mono (parseBlock_spec (responseBlock m) (wf_statusStart statusCode))
  rintro r ⟨hok, -, hblock⟩
  exact ⟨hok, hblock⟩

/-- **A response survives its parser**: it fits into the buffer, parses
    without an error to the same status code, fields and an empty body, and
    is then ignored by `sip_dispatch`. -/
theorem response_parses_back (h : AcceptedRequest bytes m) (hcode : 0 < statusCode.toInt)
    (hreason : (reasonBytes reason).length ≤ 64) (init : SipMessage) :
    ∃ resp m', sipGenerateResponse (some m) statusCode (reason.map ReasonPhrase.bytes)
        sipRespBufSize = some resp ∧
      sipParseMessage (resp ++ [0]) resp.length init = .ok (.ok, m') ∧
      m'.statusCode = statusCode ∧ m'.contentLength = 0 ∧ m'.body.cstring = [] ∧
      (∀ k ∈ [TextHeader.fromHdr, .toHdr, .callId, .cseq], m'.headerText k = m.headerText k) ∧
      (m.headerText .via ≠ [] → m'.headerText .via = m.headerText .via) ∧
      ∀ (σ : Type) (vm : Vm σ) (peer : SockAddrIn) (len : Nat) (s : σ),
        sipDispatch vm { m' with srcAddr := peer, srcLen := len } s = ([], s) := by
  have hm : Printable m := h.fieldText
  obtain ⟨⟨err, m'⟩, hparse, rfl, hblock⟩ := response_parsed statusCode reason m init
  obtain ⟨m₁, body, hparsed, hheader, hlength⟩ := hblock.parsed
  -- a field that is printed comes back
  have hback : ∀ (k : TextHeader) (default : CStr),
      responseValue m k = some (headerOr (some m) k default) → m.headerText k ≠ [] →
      m'.headerText k = m.headerText k := by
    intro k default hk hpresent
    have hvalue : headerOr (some m) k default = m.headerText k := if_neg hpresent
    have hsame : m'.headerText k = m₁.headerText k := by
      unfold SipMessage.headerText
      rw [hheader]
    rw [hsame, hparsed.headerText k, headerValues_response hm, hk, hvalue]
    exact (h.fieldText k).stored
  have hzero : m'.contentLength = 0 := by
    rw [hlength]
    apply hparsed.contentLength_zero _ rfl
    rw [contentLength_response hm]
    simp
  have hbody : m'.body = CharArray.zero _ := hblock.body (by rw [hzero]; decide)
  refine ⟨_, m', if_pos (response_fits statusCode reason hm hreason), hparse,
    hblock.statusCode, hzero, ?_, ?_, ?_, ?_⟩
  · rw [hbody]
    exact CharArray.cstring_zero
  · intro k hk
    have hpresent := h.present
    simp only [List.mem_cons, List.not_mem_nil, or_false] at hk hpresent
    rcases hk with rfl | rfl | rfl | rfl
    · exact hback _ _ rfl (hpresent _ (by simp))
    · exact hback _ _ rfl (hpresent _ (by simp))
    · exact hback _ _ rfl (hpresent _ (by simp))
    · exact hback _ _ rfl (hpresent _ (by simp))
  · intro hvia
    exact hback _ _ rfl hvia
  · intro σ vm peer len s
    have hstatus : m'.statusCode = statusCode := hblock.statusCode
    unfold sipDispatch
    rw [if_pos (by dsimp only; rw [hstatus]; exact hcode)]

/-- Whether a datagram is accepted as a request. -/
def acceptsRequest (bytes : List UInt8) : Bool :=
  match sipParseMessage (bytes ++ [0]) bytes.length .zero with
  | .ok (.ok, m) =>
    1 ≤ bytes.length && bytes.length < sipMaxRawLen && sipValidateMessage m == 0 &&
      m.statusCode.toInt ≤ 0
  | _ => false

theorem exists_accepted {b : List UInt8} (h : acceptsRequest b = true) :
    ∃ m, AcceptedRequest b m := by
  unfold acceptsRequest at h
  split at h
  · next m hparse =>
    simp only [Bool.and_eq_true, decide_eq_true_eq, beq_iff_eq] at h
    obtain ⟨⟨⟨hpos, hfits⟩, hvalid⟩, hrequest⟩ := h
    exact ⟨m, hpos, hfits, hparse, hvalid, hrequest⟩
  · cases h

/-- A request with the given `Via` lines. -/
def requestVia (lines : List CStr) : CStr :=
  cstr "INVITE sip:2@h SIP/2.0" ++ crlf ++ lines.flatMap (headerLine (cstr "Via")) ++
    headerLine (cstr "From") (cstr "<sip:1@h>") ++ headerLine (cstr "To") (cstr "<sip:2@h>") ++
    headerLine (cstr "Call-ID") (cstr "c") ++ headerLine (cstr "CSeq") (cstr "1 INVITE") ++ crlf

/-- The answer 200 OK to a request with one `Via` line. -/
theorem response_parses_back_ok :
    ∃ m resp m', AcceptedRequest (requestVia [cstr "v"]) m ∧
      sipGenerateResponse (some m) 200 none sipRespBufSize = some resp ∧
      sipParseMessage (resp ++ [0]) resp.length .zero = .ok (.ok, m') ∧ m'.statusCode = 200 := by
  obtain ⟨m, hm⟩ := exists_accepted (b := requestVia [cstr "v"]) (by decide +kernel)
  obtain ⟨resp, m', hresp, hparse, hstatus, -⟩ :=
    response_parses_back 200 none hm (by decide) (by decide) .zero
  exact ⟨m, resp, m', hm, hresp, hparse, hstatus⟩

/-! ## Section 4: Via -/

/-- The values of the `Via` lines of a datagram, in order. -/
def viaValues (bytes : List UInt8) : List CStr := headerValues (cstr "Via") (headerBlock bytes)

theorem viaValues_response {resp : CStr} (hm : Printable m)
    (hresp : sipGenerateResponse (some m) statusCode (reason.map ReasonPhrase.bytes)
      sipRespBufSize = some resp) :
    viaValues resp = [headerOr (some m) .via (cstr "SIP/2.0/UDP unknown")] := by
  unfold sipGenerateResponse at hresp
  split at hresp
  · obtain rfl := Option.some.inj hresp
    unfold viaValues
    rw [responseText_eq, headerBlock_line (statusLine_clean statusCode reason).2]
    exact headerValues_response hm .via
  · cases hresp

/-- The one `Via` line of the response is the last one of the request. -/
theorem via_last (h : AcceptedRequest bytes m) {v : CStr}
    (hlast : (viaValues bytes).getLast? = some v) :
    m.headerText .via = storedText sipMaxViaLen v := by
  have htext := h.headerText .via
  have hlines : (headerValues TextHeader.via.key (headerBlock bytes)).getLast? = some v := hlast
  rw [hlines] at htext
  exact htext

/-- **The Via lines of a request** are carried over to the response exactly
    when there is a single one, which is neither empty nor cut by a NUL. -/
theorem via_carried_iff {resp : CStr} (h : AcceptedRequest bytes m) (hvia : viaValues bytes ≠ [])
    (hwidth : ∀ v ∈ viaValues bytes, v.length < sipMaxViaLen)
    (hresp : sipGenerateResponse (some m) statusCode (reason.map ReasonPhrase.bytes)
      sipRespBufSize = some resp) :
    viaValues resp = viaValues bytes ↔ ∃ v, viaValues bytes = [v] ∧ v ≠ [] ∧ 0 ∉ v := by
  obtain ⟨v, hlast⟩ : ∃ v, (viaValues bytes).getLast? = some v :=
    Option.isSome_iff_exists.mp (by simpa using hvia)
  have hstored := via_last h hlast
  have hfits : v.length < sipMaxViaLen := hwidth v (List.mem_of_getLast? hlast)
  have htake : v.take (sipMaxViaLen - 1) = v := List.take_of_length_le (by omega)
  rw [viaValues_response statusCode reason h.fieldText hresp]
  constructor
  · intro hsame
    -- the response has one line, so the request has only the last one
    have hone : viaValues bytes = [v] := by
      rw [← hsame] at hlast ⊢
      simpa using hlast
    rw [hone] at hsame
    obtain ⟨hvalue, -⟩ := List.cons.inj hsame
    refine ⟨v, hone, ?_, ?_⟩
    · intro hempty
      have hnone : m.headerText .via = [] := by
        rw [hstored, hempty]
        rfl
      rw [hempty, headerOr, if_pos hnone] at hvalue
      exact absurd hvalue (by decide)
    · intro hnul
      have hclean : FieldText _ (headerOr (some m) .via _) :=
        Printable.responseValue (k := .via) h.fieldText rfl
      rw [hvalue] at hclean
      exact hclean.noNul hnul
  · rintro ⟨w, hone, hne, hnul⟩
    obtain rfl : w = v := by
      rw [hone] at hlast
      simpa using hlast
    have htext : m.headerText .via = w := by
      rw [hstored, storedText, htake, text_eq_self hnul]
    rw [hone, headerOr, if_neg (by rw [htext]; exact hne), htext]

/-- The theorem at a request with one `Via` line. -/
theorem via_carried_iff_one :
    ∃ m resp, AcceptedRequest (requestVia [cstr "v"]) m ∧
      sipGenerateResponse (some m) 200 none sipRespBufSize = some resp ∧
      viaValues resp = viaValues (requestVia [cstr "v"]) := by
  obtain ⟨m, hm⟩ := exists_accepted (b := requestVia [cstr "v"]) (by decide +kernel)
  have hfits := response_fits 200 none hm.fieldText (by decide)
  have hvalues : viaValues (requestVia [cstr "v"]) = [cstr "v"] := by decide +kernel
  have hcarried := via_carried_iff 200 none hm (by simp [hvalues])
    (by rw [hvalues]; decide) (if_pos hfits)
  exact ⟨m, _, hm, if_pos hfits, hcarried.mpr ⟨cstr "v", hvalues, by decide, by decide⟩⟩

/-- A request that came through a proxy loses its first `Via`. -/
theorem via_lost : ¬ ∀ (bytes : List UInt8) (m : SipMessage) (statusCode : Int32)
    (reason : Option ReasonPhrase) (resp : CStr), AcceptedRequest bytes m →
    viaValues bytes ≠ [] → (∀ v ∈ viaValues bytes, v.length < sipMaxViaLen) →
    sipGenerateResponse (some m) statusCode (reason.map ReasonPhrase.bytes) sipRespBufSize =
      some resp → viaValues resp = viaValues bytes := by
  intro hall
  obtain ⟨m, hm⟩ := exists_accepted (b := requestVia [cstr "p", cstr "v"]) (by decide +kernel)
  have hfits := response_fits 200 none hm.fieldText (by decide)
  have hvalues : viaValues (requestVia [cstr "p", cstr "v"]) = [cstr "p", cstr "v"] := by
    decide +kernel
  have hsame := hall _ m 200 none _ hm (by simp [hvalues]) (by rw [hvalues]; decide)
    (if_pos hfits)
  rw [viaValues_response 200 none hm.fieldText (if_pos hfits), hvalues] at hsame
  simp at hsame

end SipHandler
