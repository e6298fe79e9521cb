import Mathlib.Data.List.DropRight
import Mathlib.Logic.Function.Basic
import CallCenter.Framework.CMemory

/-! # SIP Messages

    `sip_handler.c` up to the validation of a message, and the generation of
    a response.  The parser works on raw bytes with the functions of
    `CMemory`, so a definition here says what is computed and where C would
    read or write outside an object.

    * Section 1: `sip_message_t`.
    * Section 2: `sip_parse_start_line`.
    * Section 3: `sip_parse_headers`.
    * Section 4: `sip_parse_message` and `sip_validate_message`.
    * Section 5: `sip_generate_response`. -/

namespace SipHandler

open CFormat CMemory

/-! ## Section 1: Messages -/

/-- `SIP_MAX_HEADER_LEN` -/
def sipMaxHeaderLen : Nat := 256

/-- `SIP_MAX_BODY_LEN` -/
def sipMaxBodyLen : Nat := 4096

/-- `SIP_MAX_RAW_LEN` -/
def sipMaxRawLen : Nat := 65536

/-- `SIP_MAX_URI_LEN` -/
def sipMaxUriLen : Nat := 256

/-- `SIP_MAX_CALLID_LEN` -/
def sipMaxCallidLen : Nat := 256

/-- `SIP_MAX_CSEQ_LEN` -/
def sipMaxCseqLen : Nat := 64

/-- `SIP_MAX_VIA_LEN` -/
def sipMaxViaLen : Nat := 256

/-- `SIP_RESP_BUF_SIZE` -/
def sipRespBufSize : Nat := 2048

/-- `MAX_EXTENSION_LEN` -/
def maxExtensionLen : Nat := 16

inductive SipMethod where
  | unknown
  | invite
  | ack
  | bye
  | cancel
  | register
  | options
  | refer
  | info
  | update
  | subscribe
  | notify
  | message
  deriving DecidableEq, Repr

inductive SipParseError where
  | ok
  | empty
  | noCrlf
  | shortLine
  | badMethod
  /-- Not returned by any function. -/
  | noSipVer
  deriving DecidableEq, Repr

/-- The header fields that are kept as text. -/
inductive TextHeader where
  | callId
  | fromHdr
  | toHdr
  | cseq
  | contact
  | contentType
  | via
  deriving DecidableEq, Repr

/-- The size of the field of `sip_message_t`. -/
def TextHeader.cap : TextHeader → Nat
  | .callId => sipMaxCallidLen
  | .fromHdr => sipMaxHeaderLen
  | .toHdr => sipMaxHeaderLen
  | .cseq => sipMaxCseqLen
  | .contact => sipMaxHeaderLen
  | .contentType => sipMaxHeaderLen
  | .via => sipMaxViaLen

/-- The name that `sip_parse_headers` compares with. -/
def TextHeader.key : TextHeader → CStr
  | .callId => cstr "Call-ID"
  | .fromHdr => cstr "From"
  | .toHdr => cstr "To"
  | .cseq => cstr "CSeq"
  | .contact => cstr "Contact"
  | .contentType => cstr "Content-Type"
  | .via => cstr "Via"

/-- The chain of comparisons in `sip_parse_headers`, in its order. -/
def textHeaders : List TextHeader :=
  [.callId, .fromHdr, .toHdr, .cseq, .contact, .contentType, .via]

structure SockAddrIn where
  addr : UInt32
  port : UInt16
  deriving DecidableEq, Repr

/-- `sip_message_t` without the pointer to the raw data, which is not read.
    `header h` is the field `call_id`, `from`, `to`, `cseq`, `contact`,
    `content_type` or `via`. -/
structure SipMessage where
  method : SipMethod
  statusCode : Int32
  requestUri : CharArray sipMaxUriLen
  header : (h : TextHeader) → CharArray h.cap
  contentLength : Int32
  fromUri : CharArray sipMaxUriLen
  fromDisplay : CharArray sipMaxHeaderLen
  toUri : CharArray sipMaxUriLen
  toDisplay : CharArray sipMaxHeaderLen
  callerNumber : CharArray maxExtensionLen
  calleeNumber : CharArray maxExtensionLen
  body : CharArray sipMaxBodyLen
  srcAddr : SockAddrIn
  srcLen : Nat

/-- `memset(msg, 0, sizeof(sip_message_t))` -/
def SipMessage.zero : SipMessage where
  method := .unknown
  statusCode := 0
  requestUri := .zero _
  header := fun h => .zero h.cap
  contentLength := 0
  fromUri := .zero _
  fromDisplay := .zero _
  toUri := .zero _
  toDisplay := .zero _
  callerNumber := .zero _
  calleeNumber := .zero _
  body := .zero _
  srcAddr := ⟨0, 0⟩
  srcLen := 0

/-- The C string in a header field. -/
def SipMessage.headerText (msg : SipMessage) (h : TextHeader) : CStr := (msg.header h).cstring

/-! ## Section 2: The start line -/

/-- `"\r\n"` -/
def crlf : CStr := [13, 10]

/-- The comparisons of `sip_method_from_string`, in their order. -/
def sipMethodNames : List (CStr × SipMethod) :=
  [(cstr "INVITE", .invite), (cstr "ACK", .ack), (cstr "BYE", .bye), (cstr "CANCEL", .cancel),
    (cstr "REGISTER", .register), (cstr "OPTIONS", .options), (cstr "REFER", .refer),
    (cstr "INFO", .info), (cstr "UPDATE", .update), (cstr "SUBSCRIBE", .subscribe),
    (cstr "NOTIFY", .notify), (cstr "MESSAGE", .message)]

def sipMethodFromString (methodStr : CStr) : SipMethod :=
  ((sipMethodNames.find? fun p => strcaseEq methodStr p.1).map Prod.snd).getD .unknown

/-- The branch of a status line. -/
def sipParseStatusLine (line : Ptr) (msg : SipMessage) : Checked (SipParseError × SipMessage) := do
  let sp1 ← strchr 32 line
  match sp1 with
  | none => return (.shortLine, msg)
  | some sp1 =>
    let code ← atoiAt sp1.tail
    -- the reason phrase is not looked at
    return (.ok, { msg with statusCode := code, method := .unknown })

/-- The request URI, between the two spaces. -/
def storeRequestUri (sp1 : Ptr) (sp2 : Option Ptr) (msg : SipMessage) : Checked SipMessage :=
  match sp2 with
  | none => .ok msg
  | some sp2 =>
    let uriLen := ptrDiff sp2 sp1 - 1
    if 0 < uriLen ∧ uriLen < sipMaxUriLen then do
      let uri ← msg.requestUri.copyText sp1.tail uriLen
      return { msg with requestUri := uri }
    -- a URI that is too long is left out, not cut
    else .ok msg

/-- `sizeof(method_buf)` -/
def methodBufSize : Nat := 32

/-- The branch of a request line. -/
def sipParseRequestLine (line : Ptr) (msg : SipMessage) :
    Checked (SipParseError × SipMessage) := do
  let sp1 ← strchr 32 line
  match sp1 with
  | none => return (.badMethod, msg)
  | some sp1 =>
    let mlen := ptrDiff sp1 line
    if mlen ≤ 0 ∨ methodBufSize ≤ mlen then
      return (.badMethod, msg)
    else
      let methodBuf ← (CharArray.zero methodBufSize).memcpy line mlen
      let methodStr ← readText methodBuf.bytes
      -- searched in the whole datagram, not in the line
      let sp2 ← strchr 32 sp1.tail
      let msg ← storeRequestUri sp1 sp2 { msg with method := sipMethodFromString methodStr }
      return (.ok, msg)

/-- The two branches. -/
def sipParseLine (line : Ptr) (msg : SipMessage) : Checked (SipParseError × SipMessage) := do
  let isResponse ← strncaseEq (cstr "SIP/2.0") line
  if isResponse then sipParseStatusLine line msg else sipParseRequestLine line msg

/-- The return code, the message and `*out_offset`. -/
def sipParseStartLine (data : Ptr) (len : Int) (msg : SipMessage) :
    Checked (SipParseError × SipMessage × Nat) :=
  if len ≤ 0 then .ok (.empty, msg, 0)
  else do
    -- `strstr` knows nothing of `len`
    let eol ← strstr crlf data
    match eol with
    | none => return (.noCrlf, msg, 0)
    | some eol =>
      let lineLen := ptrDiff eol data
      if lineLen < 7 then
        return (.shortLine, msg, 0)
      else
        let parsed ← sipParseLine data msg
        return (parsed.1, parsed.2, if parsed.1 = .ok then lineLen.toNat + 2 else 0)

/-! ## Section 3: Headers -/

/-- `while (value_start < crlf && *value_start == ' ') value_start++;` with
    `n` bytes before `crlf`. -/
def skipSpaces : Nat → Ptr → Checked Ptr
  | 0, p => .ok p
  | _ + 1, [] => .error .outOfBounds
  -- a tab ends the blanks
  | n + 1, b :: rest => if b = 32 then skipSpaces n rest else .ok (b :: rest)

/-- `key_len == strlen(key) && strncasecmp(line_start, key, key_len) == 0` -/
def keyIs (key : CStr) (keyLen : Int) (lineStart : Ptr) : Checked Bool :=
  if keyLen = key.length then strncaseEq key lineStart else .ok false

/-- The first header of the chain whose name is that of the line. -/
def findHeader (keyLen : Int) (lineStart : Ptr) : List TextHeader → Checked (Option TextHeader)
  | [] => .ok none
  | h :: rest => do
    let found ← keyIs h.key keyLen lineStart
    if found then return some h else findHeader keyLen lineStart rest

/-- `value_len < CAP - 1 ? value_len : CAP - 1` -/
def copyLen (cap : Nat) (valueLen : Int) : Int :=
  if valueLen < (cap : Int) - 1 then valueLen else (cap : Int) - 1

def SipMessage.setHeader (msg : SipMessage) (h : TextHeader) (a : CharArray h.cap) : SipMessage :=
  { msg with header := Function.update msg.header h a }

/-- `Content-Length` at the end of the chain. -/
def storeContentLength (lineStart : Ptr) (keyLen : Int) (valueStart : Ptr) (msg : SipMessage) :
    Checked SipMessage := do
  let found ← keyIs (cstr "Content-Length") keyLen lineStart
  if found then
    let n ← atoiAt valueStart
    return { msg with contentLength := n }
  else return msg

/-- The chain of comparisons for one line. -/
def storeHeader (lineStart : Ptr) (keyLen : Int) (valueStart : Ptr) (valueLen : Int)
    (msg : SipMessage) : Checked SipMessage := do
  let found ← findHeader keyLen lineStart textHeaders
  match found with
  | some h =>
    let a ← (msg.header h).copyText valueStart (copyLen h.cap valueLen)
    return msg.setHeader h a
  | none => storeContentLength lineStart keyLen valueStart msg

/-- One line, from `line_start` to `eol`. -/
def sipParseHeader (lineStart eol : Ptr) (msg : SipMessage) : Checked SipMessage := do
  let colon ← memchr 58 (ptrDiff eol lineStart).toNat lineStart
  match colon with
  -- a line without a colon is passed over
  | none => return msg
  | some colon =>
    let keyLen := ptrDiff colon lineStart
    let valueStart ← skipSpaces (ptrDiff eol colon.tail).toNat colon.tail
    let valueLen := ptrDiff eol valueStart
    storeHeader lineStart keyLen valueStart valueLen msg

/-- `remaining >= 2 && line_start[0] == '\r' && line_start[1] == '\n'` -/
def blankLine (lineStart : Ptr) (remaining : Nat) : Checked Bool :=
  if 2 ≤ remaining then startsWith crlf lineStart else .ok false

/-- The loop of `sip_parse_headers` with `remaining` bytes of the datagram at
    `line_start`; the result is the message and where the body begins.  A
    line takes at least two bytes, so the fuel need not exceed `remaining`. -/
def sipParseHeaders : Nat → Ptr → Nat → SipMessage → Checked (SipMessage × Ptr × Nat)
  | _, lineStart, 0, msg => .ok (msg, lineStart, 0)
  | 0, _, _ + 1, _ => .error .outOfFuel
  | fuel + 1, lineStart, remaining + 1, msg => do
    let blank ← blankLine lineStart (remaining + 1)
    if blank then
      return (msg, lineStart.drop 2, remaining + 1 - 2)
    else
      let eol ← memmem crlf (remaining + 1) lineStart
      match eol with
      -- no further line end: what is left counts as the body
      | none => return (msg, lineStart, remaining + 1)
      | some eol =>
        let msg ← sipParseHeader lineStart eol msg
        let hdrLen := (ptrDiff eol lineStart).toNat
        sipParseHeaders fuel (eol.drop 2) (remaining + 1 - (hdrLen + 2)) msg

/-! ## Section 4: The message -/

/-- Where the user part of a URI begins. -/
def uriStart (headerValue : Ptr) : Checked Ptr := do
  let lower ← strstr (cstr "sip:") headerValue
  match lower with
  | some p => return p.drop 4
  | none =>
    let upper ← strstr (cstr "SIP:") headerValue
    match upper with
    | some p => return p.drop 4
    | none =>
      let colon ← strchr 58 headerValue
      return (colon.map List.tail).getD headerValue

/-- Where it ends. -/
def uriEnd (sipStart : Ptr) : Checked Ptr := do
  let atSign ← strchr 64 sipStart
  let colon ← strchr 58 sipStart
  let semi ← strchr 59 sipStart
  -- an `@` wins wherever it stands, then a colon, then a semicolon
  match atSign, colon, semi with
  | some atSign, _, _ => return atSign
  | none, some colon, _ => return colon
  | none, none, some semi => return semi
  | none, none, none =>
    let n ← strlen sipStart
    return sipStart.drop n

/-- `sip_extract_uri_user`; `buf_size` is the size of the array. -/
def sipExtractUriUser {bufSize : Nat} (headerValue : Ptr) (userBuf : CharArray bufSize) :
    Checked (CharArray bufSize) := do
  -- empty unless something is found
  let userBuf ← userBuf.putNul 0
  let sipStart ← uriStart headerValue
  let stop ← uriEnd sipStart
  let userLen := ptrDiff stop sipStart
  if userLen ≤ 0 then return userBuf
  else userBuf.copyText sipStart (if bufSize ≤ userLen then (bufSize : Int) - 1 else userLen)

/-- `d_len`: the bytes before `<` without the spaces at their end. -/
def displayLen (front : List UInt8) : Nat := (front.rdropWhile (· = 32)).length

theorem displayLen_le (front : List UInt8) : displayLen front ≤ front.length :=
  (List.rdropWhile_prefix _ _).length_le

/-- `cp = d_len - 2`, the display name without its quotes. -/
def displayCopyLen (front : List UInt8) : Int := (displayLen front : Int) - 2

/-- The display name of the `From` header. -/
def storeFromDisplay (msg : SipMessage) : Checked SipMessage := do
  let from_ := (msg.header .fromHdr).bytes
  let first ← readByte from_
  if first = 0 then return msg
  else
    let lt ← strchr 60 from_
    match lt with
    | none => return msg
    | some lt =>
      let front := from_.take (ptrDiff lt from_).toNat
      let cp := displayCopyLen front
      if 0 < displayLen front ∧ first = 34 ∧ 0 < cp ∧ cp < sipMaxHeaderLen then
        let a ← msg.fromDisplay.copyText from_.tail cp
        return { msg with fromDisplay := a }
      else return msg

/-- The smaller one. -/
def clip (n bound : Int) : Int := if bound < n then bound else n

/-- The body, with `remain` bytes left at `bodyStart`. -/
def storeBody (bodyStart : Ptr) (remain : Nat) (msg : SipMessage) : Checked SipMessage :=
  if 0 < msg.contentLength.toInt then
    let cpLen := clip (clip msg.contentLength.toInt remain) ((sipMaxBodyLen : Int) - 1)
    if 0 < cpLen then do
      let a ← msg.body.copyText bodyStart cpLen
      return { msg with body := a }
    else .ok msg
  else .ok msg

/-- The users of the two URIs, into the fields that are given. -/
def storeUsers (msg : SipMessage) : Checked SipMessage := do
  let from_ := (msg.header .fromHdr).bytes
  let to_ := (msg.header .toHdr).bytes
  let fromUri ← sipExtractUriUser from_ msg.fromUri
  let toUri ← sipExtractUriUser to_ msg.toUri
  let msg ← storeFromDisplay { msg with fromUri := fromUri, toUri := toUri }
  let callerNumber ← sipExtractUriUser from_ msg.callerNumber
  let calleeNumber ← sipExtractUriUser to_ msg.calleeNumber
  return { msg with callerNumber := callerNumber, calleeNumber := calleeNumber }

/-- `sip_parse_message`; with `len <= 0` the message is not written. -/
def sipParseMessage (data : Ptr) (len : Int) (msg : SipMessage) :
    Checked (SipParseError × SipMessage) :=
  if len ≤ 0 then .ok (.empty, msg)
  else do
    let line ← sipParseStartLine data len .zero
    if line.1 ≠ .ok then
      return (line.1, line.2.1)
    else
      let remaining := len.toNat - line.2.2
      let parsed ← sipParseHeaders remaining (data.drop line.2.2) remaining line.2.1
      let msg ← storeUsers parsed.1
      let msg ← storeBody parsed.2.1 parsed.2.2 msg
      return (.ok, msg)

def sipValidateMessage (msg : SipMessage) : Int :=
  -- a response is not checked any further
  if 0 < msg.statusCode.toInt then 0
  else if msg.method = .unknown then -2
  else if msg.headerText .callId = [] then -3
  else if msg.headerText .fromHdr = [] then -4
  else if msg.headerText .toHdr = [] then -5
  else if msg.headerText .cseq = [] then -6
  else 0

/-! ## Section 5: Responses -/

/-- `request && request->h[0] ? request->h : default` -/
def headerOr (request : Option SipMessage) (h : TextHeader) (default : CStr) : CStr :=
  match request with
  | some msg => if msg.headerText h = [] then default else msg.headerText h
  | none => default

/-- One header line. -/
def headerLine (key value : CStr) : CStr := key ++ cstr ": " ++ value ++ crlf

/-- What the format of `sip_generate_response` prints. -/
def responseText (request : Option SipMessage) (statusCode : Int32) (reasonPhrase : Option CStr) :
    CStr :=
  cstr "SIP/2.0 " ++ intText statusCode ++ cstr " " ++ reasonPhrase.getD (cstr "OK") ++ crlf ++
    headerLine (cstr "Via") (headerOr request .via (cstr "SIP/2.0/UDP unknown")) ++
    headerLine (cstr "From") (headerOr request .fromHdr (cstr "<sip:unknown>")) ++
    headerLine (cstr "To") (headerOr request .toHdr (cstr "<sip:unknown>")) ++
    headerLine (cstr "Call-ID") (headerOr request .callId (cstr "unknown")) ++
    headerLine (cstr "CSeq") (headerOr request .cseq (cstr "0 UNKNOWN")) ++
    headerLine (cstr "Content-Length") (cstr "0") ++ crlf

/-- The text in the buffer, `none` for the return code -1. -/
def sipGenerateResponse (request : Option SipMessage) (statusCode : Int32)
    (reasonPhrase : Option CStr) (bufSize : Nat) : Option CStr :=
  if (responseText request statusCode reasonPhrase).length < bufSize then
    some (responseText request statusCode reasonPhrase)
  else none

end SipHandler
