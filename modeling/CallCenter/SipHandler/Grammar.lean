import CallCenter.SipHandler.Response
import CallCenter.SipHandler.StartLine

/-! # The Accepted Requests

    Which datagrams the parser and the validation let through as requests,
    said of the bytes alone (`accepted_iff`), and how far this is from the
    request line of the grammar, a method, a URI and the version.  The error
    code for a missing version is declared, but the version is never looked
    at; neither is the presence of the URI or its length.

    * Section 1: known methods and the line of a request.
    * Section 2: `accepted_iff`.
    * Section 3: `request_form_iff` and a request without a version. -/

namespace SipHandler

open CFormat CMemory

/-! ## Section 1: Request lines -/

def KnownMethod (name : List UInt8) : Prop := sipMethodFromString name ≠ .unknown

instance (name : List UInt8) : Decidable (KnownMethod name) :=
  inferInstanceAs (Decidable (_ ≠ _))

/-- A known method consists of letters. -/
theorem KnownMethod.letters {name : List UInt8} (h : KnownMethod name) :
    3 ≤ name.length ∧ name.length ≤ 9 ∧ ∀ b ∈ name, 97 ≤ toLower b := by
  have hall : ∀ p ∈ sipMethodNames, 3 ≤ p.1.length ∧ p.1.length ≤ 9 ∧
      ∀ b ∈ p.1.map toLower, 97 ≤ b := by decide +kernel
  unfold KnownMethod sipMethodFromString at h
  cases hfind : sipMethodNames.find? fun p => strcaseEq name p.1 with
  | none => simp [hfind] at h
  | some p =>
    have hcase : strcaseEq name p.1 = true := by simpa using List.find?_some hfind
    have heq := strcaseEq_iff.mp hcase
    obtain ⟨hlo, hhi, hletters⟩ := hall p (List.mem_of_find?_eq_some hfind)
    have hlen : name.length = p.1.length := by simpa using congrArg List.length heq
    refine ⟨by omega, by omega, ?_⟩
    intro b hb
    apply hletters
    rw [← heq]
    exact List.mem_map_of_mem hb

theorem KnownMethod.notMem {name : List UInt8} (h : KnownMethod name) {b : UInt8}
    (hb : ¬ 97 ≤ toLower b) : b ∉ name := fun hmem => hb (h.letters.2.2 b hmem)

/-- A line that begins with a known method is no status line. -/
theorem KnownMethod.not_status {name : List UInt8} (h : KnownMethod name) (back : List UInt8) :
    strcaseEq ((name ++ 32 :: back).take 7) (cstr "SIP/2.0") = false := by
  obtain ⟨hlo, -, hletters⟩ := h.letters
  rw [Bool.eq_false_iff, ne_eq, strcaseEq_iff]
  intro heq
  -- the fourth byte would be the slash
  have hslash : ((name ++ 32 :: back).take 7)[3]?.map toLower = some 47 := by
    rw [← List.getElem?_map, heq]
    decide
  obtain ⟨b, hb, hlower⟩ := Option.map_eq_some_iff.mp hslash
  rw [List.getElem?_take_of_lt (by omega)] at hb
  rcases Nat.lt_or_ge 3 name.length with hlong | hshort
  · rw [List.getElem?_append_left hlong] at hb
    have hletter := hletters b (List.mem_of_getElem? hb)
    rw [hlower] at hletter
    exact absurd hletter (by decide)
  · have hthree : name.length = 3 := by omega
    rw [List.getElem?_append_right hshort, hthree] at hb
    obtain rfl : (32 : UInt8) = b := by simpa using hb
    exact absurd hlower (by decide)

/-- The size of the buffer for the method is no limit. -/
theorem KnownMethod.fits {name : List UInt8} (h : KnownMethod name) :
    ¬ (name = [] ∨ methodBufSize ≤ name.length) := by
  obtain ⟨hlo, hhi, -⟩ := h.letters
  rw [not_or]
  refine ⟨?_, ?_⟩
  · rintro rfl
    simp at hlo
  · unfold methodBufSize
    omega

/-- A request line with a known method is accepted, whatever stands behind the
    method. -/
theorem sipParseRequestLine_known {name : List UInt8} (hknown : KnownMethod name)
    (back : List UInt8) {eol : Ptr} (heol : Terminated eol) :
    ∃ uri, (sipParseRequestLine (name ++ 32 :: back ++ eol) .zero).map observed =
      .ok (.ok, sipMethodFromString name, uri, 0) := by
  have hspace : 32 ∉ name := hknown.notMem (by decide)
  have h0 : 0 ∉ name := hknown.notMem (by decide)
  have hback : Terminated (back ++ eol) := List.mem_append_right _ heol
  -- the second space may be missing, or stand behind the line
  rcases strchr_cases (c := 32) (by decide) hback with ⟨u, r, hp, hu, hu0, -⟩ | ⟨-, hchr⟩
  · exact ⟨_, request_uri hspace h0 hknown.fits hu hu0 hp⟩
  · exact ⟨_, request_no_uri hspace h0 hknown.fits hchr⟩

theorem storeRequestUri_method {sp1 : Ptr} {sp2 : Option Ptr} {m r : SipMessage}
    (h : storeRequestUri sp1 sp2 m = .ok r) : r.method = m.method := by
  unfold storeRequestUri at h
  cases sp2 with
  | none =>
    obtain rfl := Except.ok.inj h
    rfl
  | some sp2 =>
    dsimp only at h
    split at h
    · obtain ⟨uri, -, hr⟩ := bind_eq_ok h
      obtain rfl := Except.ok.inj hr
      rfl
    · obtain rfl := Except.ok.inj h
      rfl

/-- An accepted line with a method that is known begins with that method. -/
theorem sipParseLine_method {line block : List UInt8} (hlen : 7 ≤ line.length)
    {start : SipMessage} (hmethod : start.method ≠ .unknown)
    (h : sipParseLine (line ++ crlf ++ (block ++ [0])) .zero = .ok (.ok, start)) :
    ∃ name back, line = name ++ 32 :: back ∧ KnownMethod name := by
  have hterm : Terminated (line ++ (crlf ++ (block ++ [0]))) := by simp [Terminated]
  rw [List.append_assoc, sipParseLine_eq hlen] at h
  split at h
  · -- a status line has no method
    obtain ⟨sp1, -, hrest⟩ := bind_eq_ok h
    cases sp1 with
    | none => cases hrest
    | some sp1 =>
      obtain ⟨code, -, hstart⟩ := bind_eq_ok hrest
      obtain rfl := (Prod.mk.inj (Except.ok.inj hstart)).2
      exact absurd rfl hmethod
  · rcases strchr_cases (c := 32) (by decide) hterm with ⟨s, rest, hdata, hs, hs0, -⟩ | ⟨-, hchr⟩
    · rw [hdata, sipParseRequestLine_space hs hs0] at h
      split at h
      · cases h
      · obtain ⟨sp2, -, hrest⟩ := bind_eq_ok h
        obtain ⟨m, hstore, hstart⟩ := bind_eq_ok hrest
        obtain rfl := (Prod.mk.inj (Except.ok.inj hstart)).2
        have hknown : KnownMethod s := by
          rw [storeRequestUri_method hstore] at hmethod
          exact hmethod
        have hcr : 13 ∉ s := hknown.notMem (by decide)
        -- the method has no carriage return, so its space is in the line
        rcases List.append_eq_append_iff.mp hdata with ⟨a, rfl, ha⟩ | ⟨c, rfl, hc⟩
        · cases a with
          | nil => exact absurd (List.cons.inj ha).1 (by decide)
          | cons b a =>
            obtain rfl : (13 : UInt8) = b := (List.cons.inj ha).1
            simp at hcr
        · cases c with
          | nil => exact absurd (List.cons.inj hc).1 (by decide)
          | cons b c =>
            obtain rfl : (32 : UInt8) = b := (List.cons.inj hc).1
            exact ⟨s, c, rfl, hknown⟩
    · unfold sipParseRequestLine at h
      rw [hchr] at h
      cases h

/-! ## Section 2: The accepted datagrams -/

/-- The value of the last line with the name, and the empty text without one. -/
def lastValue (key : CStr) (bytes : List UInt8) : CStr :=
  ((headerValues key (headerBlock bytes)).getLast?).getD []

/-- The fields that `sip_validate_message` asks for. -/
def requiredHeaders : List TextHeader := [.callId, .fromHdr, .toHdr, .cseq]

/-- A line of at least seven bytes that begins with a known method and a space,
    and a value to keep for each of the required fields. -/
structure Acceptable (bytes : List UInt8) : Prop where
  fits : bytes.length < sipMaxRawLen
  line : ∃ name back block, bytes = name ++ 32 :: back ++ crlf ++ block ∧
    splitOn crlf (name ++ 32 :: back) = none ∧ 0 ∉ name ++ 32 :: back ∧
    7 ≤ (name ++ 32 :: back).length ∧ KnownMethod name
  present : ∀ k ∈ requiredHeaders, storedText k.cap (lastValue k.key bytes) ≠ []

variable {bytes : List UInt8} {m : SipMessage}

theorem storedText_nil (cap : Nat) : storedText cap [] = [] := by simp [storedText, text]

theorem DatagramParsed.headerText_last {line block : List UInt8} {start : SipMessage}
    (hdata : DatagramParsed bytes line block start m) (k : TextHeader) :
    m.headerText k = storedText k.cap (lastValue k.key bytes) := by
  rw [hdata.headerText k, lastValue]
  cases (headerValues k.key (headerBlock bytes)).getLast? with
  | none => exact (storedText_nil k.cap).symm
  | some v => rfl

theorem AcceptedRequest.headerText_last (h : AcceptedRequest bytes m) (k : TextHeader) :
    m.headerText k = storedText k.cap (lastValue k.key bytes) := by
  obtain ⟨line, block, start, hdata⟩ := h.datagram
  exact hdata.headerText_last k

theorem AcceptedRequest.method (h : AcceptedRequest bytes m) : m.method ≠ .unknown := by
  have hvalid := h.valid
  unfold sipValidateMessage at hvalid
  rw [if_neg (not_lt.mpr h.request)] at hvalid
  intro hunknown
  rw [if_pos hunknown] at hvalid
  cases hvalid

theorem AcceptedRequest.acceptable (h : AcceptedRequest bytes m) : Acceptable bytes := by
  obtain ⟨line, block, start, hdata⟩ := h.datagram
  have hmethod : start.method ≠ .unknown := by
    rw [← hdata.block.method]
    exact h.method
  obtain ⟨name, back, rfl, hknown⟩ := sipParseLine_method hdata.long hmethod hdata.startLine
  refine ⟨h.fits, ⟨name, back, block, hdata.bytes_eq, hdata.noCrlf, hdata.noNul, hdata.long,
    hknown⟩, ?_⟩
  intro k hk
  rw [← h.headerText_last k]
  exact h.present k hk

/-- A message with a method and the required fields passes. -/
theorem valid_of_present (hmethod : m.method ≠ .unknown)
    (hpresent : ∀ k ∈ requiredHeaders, m.headerText k ≠ []) (hstatus : m.statusCode = 0) :
    sipValidateMessage m = 0 := by
  have hcode : ¬ 0 < m.statusCode.toInt := by rw [hstatus]; decide
  unfold sipValidateMessage
  rw [if_neg hcode, if_neg hmethod, if_neg (hpresent .callId (by decide)),
    if_neg (hpresent .fromHdr (by decide)), if_neg (hpresent .toHdr (by decide)),
    if_neg (hpresent .cseq (by decide))]

theorem Acceptable.accepted (h : Acceptable bytes) : ∃ m, AcceptedRequest bytes m := by
  obtain ⟨name, back, block, hbytes, hcrlf, h0, hlen, hknown⟩ := h.line
  have hpos : 1 ≤ bytes.length := by
    rw [hbytes, List.length_append, List.length_append]
    omega
  have heol : Terminated (crlf ++ (block ++ [0])) := by simp [Terminated]
  obtain ⟨uri, hline⟩ := sipParseRequestLine_known hknown back heol
  obtain ⟨⟨err, start⟩, hparsed, hobs⟩ : ∃ r, sipParseRequestLine
      (name ++ 32 :: back ++ (crlf ++ (block ++ [0]))) .zero = .ok r ∧
        observed r = (.ok, sipMethodFromString name, uri, 0) := by
    cases hcase : sipParseRequestLine (name ++ 32 :: back ++ (crlf ++ (block ++ [0]))) .zero with
    | error fault => rw [hcase] at hline; cases hline
    | ok r =>
      rw [hcase] at hline
      exact ⟨r, rfl, Except.ok.inj hline⟩
  simp only [observed, Prod.mk.injEq] at hobs
  obtain ⟨rfl, hmethod, -, hstatus⟩ := hobs
  have hstart : sipParseLine (name ++ 32 :: back ++ crlf ++ (block ++ [0])) .zero =
      .ok (.ok, start) := by
    rw [List.append_assoc, sipParseLine_eq hlen, hknown.not_status, if_neg (by decide), hparsed]
  have hwf : start.Wf := by
    obtain ⟨r, hr, hwf, -⟩ := sipParseLine_spec hlen heol wf_zero
    rw [← List.append_assoc, hstart] at hr
    obtain rfl := Except.ok.inj hr
    exact hwf
  obtain ⟨⟨err, m⟩, hblock, hok, -, hfields⟩ := parseBlock_spec block hwf
  obtain rfl : err = .ok := hok
  have hparse : sipParseMessage (bytes ++ [0]) bytes.length .zero = .ok (.ok, m) := by
    rw [hbytes, sipParseMessage_line hcrlf h0, if_neg (by omega), hstart]
    exact hblock
  have hmsgStatus : m.statusCode = 0 := hfields.statusCode.trans hstatus
  refine ⟨m, hpos, h.fits, hparse, ?_, by rw [hmsgStatus]; decide⟩
  apply valid_of_present _ _ hmsgStatus
  · rw [hfields.method, hmethod]
    exact hknown
  · obtain ⟨r, hr, -, hdata⟩ := sipParseMessage_spec hpos .zero
    rw [hparse] at hr
    obtain rfl := Except.ok.inj hr
    obtain ⟨line', block', start', hdata⟩ := hdata rfl
    intro k hk
    rw [hdata.headerText_last k]
    exact h.present k hk

/-- **The accepted requests**, in terms of the bytes of the datagram. -/
theorem accepted_iff (bytes : List UInt8) :
    (∃ m, AcceptedRequest bytes m) ↔ Acceptable bytes :=
  ⟨fun ⟨_, h⟩ => h.acceptable, fun h => h.accepted⟩

/-! ## Section 3: The form of a request line -/

/-- The bytes before the first CRLF. -/
def firstLine (bytes : List UInt8) : List UInt8 :=
  ((splitOn crlf bytes).map Prod.fst).getD bytes

theorem firstLine_line {line : List UInt8} (hcrlf : splitOn crlf line = none)
    (block : List UInt8) : firstLine (line ++ crlf ++ block) = line := by
  unfold firstLine
  rw [splitOn_crlf hcrlf]
  rfl

/-- The first line is a known method, a URI and the version, and `request_uri`
    holds the URI. -/
def RequestForm (bytes : List UInt8) (m : SipMessage) : Prop :=
  ∃ name uri, firstLine bytes = name ++ 32 :: (uri ++ 32 :: cstr "SIP/2.0") ∧
    KnownMethod name ∧ uri ≠ [] ∧ 32 ∉ uri ∧ uri.length < sipMaxUriLen ∧
    m.requestUri.cstring = uri

/-- What the first line has behind its first space. -/
def behindMethod (bytes : List UInt8) : List UInt8 :=
  ((splitOn [32] (firstLine bytes)).map Prod.snd).getD []

/-- The checks that are missing: a second space in the line itself, a URI of the
    right length in front of it, and the version behind it. -/
def UriAndVersion (back : List UInt8) : Prop :=
  ∃ uri, back = uri ++ 32 :: cstr "SIP/2.0" ∧ 32 ∉ uri ∧ uri ≠ [] ∧ uri.length < sipMaxUriLen

theorem behindMethod_line {name back : List UInt8} (hspace : 32 ∉ name)
    (hcrlf : splitOn crlf (name ++ 32 :: back) = none) (block : List UInt8) :
    behindMethod (name ++ 32 :: back ++ crlf ++ block) = back := by
  unfold behindMethod
  rw [firstLine_line hcrlf, splitOn_byte hspace]
  rfl

/-! ### The request URI -/

theorem Parsed.requestUri {tail : Ptr} {block body : List UInt8} {msg m : SipMessage}
    (h : Parsed tail block msg m body) : m.requestUri = msg.requestUri := by
  induction h with
  | blank => rfl
  | stop => rfl
  | line _ _ hline _ ih =>
    rw [ih]
    unfold LineStored at hline
    split at hline
    · rw [hline]
    · cases hline with
      | text => rfl
      | length => rfl
      | other => rfl

theorem storeFromDisplay_requestUri {msg m : SipMessage} (h : storeFromDisplay msg = .ok m) :
    m.requestUri = msg.requestUri := by
  unfold storeFromDisplay at h
  obtain ⟨first, -, h⟩ := bind_eq_ok h
  split at h
  · rw [← Except.ok.inj h]
  · obtain ⟨lt, -, h⟩ := bind_eq_ok h
    cases lt with
    | none => rw [← Except.ok.inj h]
    | some lt =>
      dsimp only at h
      split at h
      · obtain ⟨a, -, h⟩ := bind_eq_ok h
        rw [← Except.ok.inj h]
      · rw [← Except.ok.inj h]

theorem storeUsers_requestUri {msg m : SipMessage} (h : storeUsers msg = .ok m) :
    m.requestUri = msg.requestUri := by
  unfold storeUsers at h
  obtain ⟨fromUri, -, h⟩ := bind_eq_ok h
  obtain ⟨toUri, -, h⟩ := bind_eq_ok h
  obtain ⟨withDisplay, hdisplay, h⟩ := bind_eq_ok h
  obtain ⟨callerNumber, -, h⟩ := bind_eq_ok h
  obtain ⟨calleeNumber, -, h⟩ := bind_eq_ok h
  have hkept := storeFromDisplay_requestUri hdisplay
  rw [← Except.ok.inj h]
  exact hkept

theorem storeBody_requestUri {bodyStart : Ptr} {remain : Nat} {msg m : SipMessage}
    (h : storeBody bodyStart remain msg = .ok m) : m.requestUri = msg.requestUri := by
  unfold storeBody at h
  split at h
  · dsimp only at h
    split at h
    · obtain ⟨a, -, h⟩ := bind_eq_ok h
      rw [← Except.ok.inj h]
    · rw [← Except.ok.inj h]
  · rw [← Except.ok.inj h]

/-- What follows the start line does not touch the URI. -/
theorem parseBlock_requestUri {block : List UInt8} {start m : SipMessage} {err : SipParseError}
    (h : parseBlock (block ++ [0]) block.length start = .ok (err, m)) :
    m.requestUri = start.requestUri := by
  have htail : Terminated [0] := by simp [Terminated]
  unfold parseBlock at h
  obtain ⟨parsed, hheaders, h⟩ := bind_eq_ok h
  obtain ⟨withUsers, husers, h⟩ := bind_eq_ok h
  obtain ⟨withBody, hbody, h⟩ := bind_eq_ok h
  obtain ⟨body, -, -, hparsed⟩ := (sipParseHeaders_spec htail le_rfl start).result hheaders
  rw [← (Prod.mk.inj (Except.ok.inj h)).2, storeBody_requestUri hbody,
    storeUsers_requestUri husers, hparsed.requestUri]

/-- The URI of a line that has one is stored. -/
theorem AcceptedRequest.requestUri (h : AcceptedRequest bytes m)
    {name uri version block : List UInt8}
    (hbytes : bytes = name ++ 32 :: (uri ++ 32 :: version) ++ crlf ++ block)
    (hcrlf : splitOn crlf (name ++ 32 :: (uri ++ 32 :: version)) = none)
    (h0 : 0 ∉ name ++ 32 :: (uri ++ 32 :: version))
    (hlen : 7 ≤ (name ++ 32 :: (uri ++ 32 :: version)).length) (hknown : KnownMethod name)
    (huri : 32 ∉ uri) (hfits : 0 < uri.length ∧ uri.length < sipMaxUriLen) :
    m.requestUri.cstring = uri := by
  have hparsed := h.parsed
  have huri0 : 0 ∉ uri := fun hmem => h0 (by simp [hmem])
  rw [hbytes, sipParseMessage_line hcrlf h0, if_neg (by omega), List.append_assoc,
    sipParseLine_eq hlen, hknown.not_status, if_neg (by decide)] at hparsed
  have hsecond : uri ++ 32 :: version ++ (crlf ++ (block ++ [0])) =
      uri ++ 32 :: (version ++ (crlf ++ (block ++ [0]))) := by simp
  have hobs := request_uri (hknown.notMem (by decide)) (hknown.notMem (by decide)) hknown.fits
    huri huri0 hsecond
  obtain ⟨⟨err, start⟩, hline, hrest⟩ := bind_eq_ok hparsed
  rw [hline, if_pos hfits] at hobs
  simp only [Except.map, observed, Except.ok.injEq, Prod.mk.injEq] at hobs
  obtain ⟨rfl, -, hstart, -⟩ := hobs
  rw [parseBlock_requestUri hrest, hstart]

/-- **The request line**: the requests that are accepted have the form of the
    grammar exactly if what follows the method does, which is not checked. -/
theorem request_form_iff (bytes : List UInt8) :
    (∀ m, AcceptedRequest bytes m → RequestForm bytes m) ↔
      (Acceptable bytes → UriAndVersion (behindMethod bytes)) := by
  constructor
  · intro hform hacc
    obtain ⟨m, hm⟩ := hacc.accepted
    obtain ⟨name, uri, hline, hknown, hne, hspace, hlen, -⟩ := hform m hm
    refine ⟨uri, ?_, hspace, hne, hlen⟩
    unfold behindMethod
    rw [hline, splitOn_byte (hknown.notMem (by decide))]
    rfl
  · intro hback m hm
    have hacc := hm.acceptable
    obtain ⟨name, back, block, hbytes, hcrlf, h0, hlen, hknown⟩ := hacc.line
    have hspace : 32 ∉ name := hknown.notMem (by decide)
    obtain ⟨uri, hcut, huri, hne, hfits⟩ := hback hacc
    rw [hbytes, behindMethod_line hspace hcrlf] at hcut
    subst hcut
    refine ⟨name, uri, ?_, hknown, hne, huri, hfits, ?_⟩
    · rw [hbytes, firstLine_line hcrlf]
    · exact hm.requestUri hbytes hcrlf h0 hlen hknown huri
        ⟨List.length_pos_of_ne_nil hne, hfits⟩

/-- A request with the given text behind its method. -/
def requestBehind (back : CStr) : CStr :=
  cstr "INVITE " ++ back ++ crlf ++
    headerLine (cstr "From") (cstr "<sip:1@h>") ++ headerLine (cstr "To") (cstr "<sip:2@h>") ++
    headerLine (cstr "Call-ID") (cstr "c") ++ headerLine (cstr "CSeq") (cstr "1 INVITE") ++ crlf

/-- A request without a version is accepted. -/
theorem request_without_version :
    ¬ ∀ (bytes : List UInt8) (m : SipMessage), AcceptedRequest bytes m → RequestForm bytes m := by
  intro h
  obtain ⟨m, hm⟩ := exists_accepted (b := requestBehind (cstr "sip:2@h")) (by decide +kernel)
  obtain ⟨name, uri, hline, hknown, -⟩ := h _ m hm
  have hfirst : firstLine (requestBehind (cstr "sip:2@h")) = cstr "INVITE sip:2@h" := by
    decide +kernel
  -- a line with the version has two spaces
  have hspaces := congrArg (List.count 32) (hfirst.symm.trans hline)
  simp only [List.count_append, List.count_cons] at hspaces
  have hone : (cstr "INVITE sip:2@h").count 32 = 1 := by decide
  rw [hone] at hspaces
  simp at hspaces
  omega

end SipHandler
