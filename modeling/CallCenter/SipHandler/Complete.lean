import CallCenter.SipHandler.Grammar

/-! # Values That Are Cut

    `sip_parse_headers` copies as much of a value as its field holds, and
    `sip_validate_message` asks only whether the field is empty.

    * `stored_complete_iff`: the requests whose fields hold their values
      complete, and those that cannot be told apart by their call id.
    * `callId_cut`: two requests with different call ids are stored with one. -/

namespace SipHandler

open CFormat CMemory

/-- The fields that identify a request and are sent back. -/
def echoedHeaders : List TextHeader := [.callId, .fromHdr, .toHdr, .cseq, .via]

/-- Each of the fields holds the complete value of its line. -/
def StoredComplete (bytes : List UInt8) (m : SipMessage) : Prop :=
  ∀ k ∈ echoedHeaders, m.headerText k = lastValue k.key bytes

/-- Each of the values fits its field and has no NUL. -/
def ValuesFit (bytes : List UInt8) : Prop :=
  ∀ k ∈ echoedHeaders, (lastValue k.key bytes).length < k.cap ∧ 0 ∉ lastValue k.key bytes

/-- What is kept of a value is all of it. -/
theorem storedText_eq_self_iff {cap : Nat} (hcap : 0 < cap) (value : CStr) :
    storedText cap value = value ↔ value.length < cap ∧ 0 ∉ value := by
  constructor
  · intro h
    have hfront := (List.takeWhile_prefix (· ≠ 0) (l := value.take (cap - 1))).length_le
    have hle : (storedText cap value).length ≤ (value.take (cap - 1)).length := hfront
    rw [h, List.length_take] at hle
    refine ⟨by omega, ?_⟩
    rw [← h]
    exact notMem_text _
  -- neither the size nor a NUL cuts it
  · rintro ⟨hlen, h0⟩
    rw [storedText, List.take_of_length_le (by omega), text_eq_self h0]

/-- The value of the `Call-ID` line. -/
def callIdValue (bytes : List UInt8) : CStr := lastValue (cstr "Call-ID") bytes

/-- Different call ids are stored as different texts. -/
def CallIdsApart (bytes bytes' : List UInt8) : Prop :=
  ∀ m m', AcceptedRequest bytes m → AcceptedRequest bytes' m' →
    callIdValue bytes ≠ callIdValue bytes' → m.headerText .callId ≠ m'.headerText .callId

/-- **Complete values**: a request that is accepted is stored with its complete
    values exactly if they fit, and two requests are told apart exactly if
    their call ids differ in the part that is kept. -/
theorem stored_complete_iff (bytes bytes' : List UInt8) :
    ((∀ m, AcceptedRequest bytes m → StoredComplete bytes m) ↔
        (Acceptable bytes → ValuesFit bytes)) ∧
      (CallIdsApart bytes bytes' ↔
        (Acceptable bytes → Acceptable bytes' → callIdValue bytes ≠ callIdValue bytes' →
          text ((callIdValue bytes).take 255) ≠ text ((callIdValue bytes').take 255))) := by
  have hcomplete : ∀ m, AcceptedRequest bytes m → (StoredComplete bytes m ↔ ValuesFit bytes) := by
    intro m hm
    unfold StoredComplete ValuesFit
    constructor
    · intro h k hk
      have hkept := h k hk
      rw [hm.headerText_last k] at hkept
      exact (storedText_eq_self_iff k.cap_pos _).mp hkept
    · intro h k hk
      rw [hm.headerText_last k]
      exact (storedText_eq_self_iff k.cap_pos _).mpr (h k hk)
  have hcallId : ∀ {b m}, AcceptedRequest b m →
      m.headerText .callId = text ((callIdValue b).take 255) := fun hm => hm.headerText_last .callId
  refine ⟨⟨?_, ?_⟩, ?_, ?_⟩
  · intro h hacc
    obtain ⟨m, hm⟩ := hacc.accepted
    exact (hcomplete m hm).mp (h m hm)
  · intro h m hm
    exact (hcomplete m hm).mpr (h hm.acceptable)
  · intro h hacc hacc' hne
    obtain ⟨m, hm⟩ := hacc.accepted
    obtain ⟨m', hm'⟩ := hacc'.accepted
    have hapart := h m m' hm hm' hne
    rwa [hcallId hm, hcallId hm'] at hapart
  · intro h m m' hm hm' hne
    rw [hcallId hm, hcallId hm']
    exact h hm.acceptable hm'.acceptable hne

/-- A request with the given call id. -/
def requestCallId (callId : CStr) : CStr :=
  cstr "INVITE sip:2@h SIP/2.0" ++ crlf ++ headerLine (cstr "Call-ID") callId ++
    headerLine (cstr "From") (cstr "<sip:1@h>") ++ headerLine (cstr "To") (cstr "<sip:2@h>") ++
    headerLine (cstr "CSeq") (cstr "1 INVITE") ++ crlf

/-- A call id of 256 bytes that ends with `last`. -/
def cutCallId (last : UInt8) : CStr := List.replicate 255 97 ++ [last]

/-- Two requests are accepted, their call ids are stored without the last byte,
    and then they are the same. -/
theorem callId_cut :
    ∃ bytes bytes' m m', AcceptedRequest bytes m ∧ AcceptedRequest bytes' m' ∧
      callIdValue bytes ≠ callIdValue bytes' ∧ ¬ StoredComplete bytes m ∧
      m.headerText .callId = m'.headerText .callId := by
  obtain ⟨m, hm⟩ := exists_accepted (b := requestCallId (cutCallId 49)) (by decide +kernel)
  obtain ⟨m', hm'⟩ := exists_accepted (b := requestCallId (cutCallId 50)) (by decide +kernel)
  have hvalue : callIdValue (requestCallId (cutCallId 49)) = cutCallId 49 := by decide +kernel
  have hvalue' : callIdValue (requestCallId (cutCallId 50)) = cutCallId 50 := by decide +kernel
  have hstored : m.headerText .callId = List.replicate 255 97 := by
    rw [hm.headerText_last .callId]
    show storedText 256 (callIdValue _) = _
    rw [hvalue]
    decide +kernel
  have hstored' : m'.headerText .callId = List.replicate 255 97 := by
    rw [hm'.headerText_last .callId]
    show storedText 256 (callIdValue _) = _
    rw [hvalue']
    decide +kernel
  refine ⟨_, _, m, m', hm, hm', ?_, ?_, hstored.trans hstored'.symm⟩
  · rw [hvalue, hvalue']
    decide +kernel
  · intro hcomplete
    have hkept : m.headerText .callId = callIdValue _ := hcomplete .callId (by decide)
    rw [hstored, hvalue] at hkept
    exact absurd (congrArg List.length hkept) (by decide +kernel)

end SipHandler
