import CallCenter.Route.Retransmission
import CallCenter.Route.Shipped
import CallCenter.SipHandler.Response

/-! # What Peers Are Answered

    The SIP server with the script in service: datagrams of any peers, in any
    order, and anything else that is done to the script in between.  Each
    request but an ACK is answered on its own, to its sender, with one or two
    responses, and nobody is ever told `486 Busy Here` (`traffic_answered`). -/

namespace Route

open CFormat CMemory Lua Script LuaUtils SipHandler Transition

/-! ## Section 1: Traffic -/

inductive Traffic where
  /-- A datagram of a peer, and what it is answered with. -/
  | datagram (peer : SockAddrIn) (data : List UInt8) (out : List Datagram)
  | script (call : ScriptCall)

def trafficStep (p : Platform) (s : RouteState) : Traffic → RouteState → Prop
  | .datagram peer data out, s' => sipHandleDatagram (routeVm p) peer data s = .ok (out, s')
  | .script call, s' => scriptStep p s call = s'

/-- The responses that are sent; 486 is not one of them. -/
def sentResponses : List (Int32 × CStr) :=
  [(100, cstr "Trying"), (180, cstr "Ringing"), (200, cstr "OK"), (202, cstr "Accepted"),
    (400, cstr "Bad Request"), (404, cstr "Not Found"), (405, cstr "Method Not Allowed"),
    (480, cstr "Temporarily Unavailable"), (500, cstr "Server Internal Error")]

/-- Their status codes. -/
def sentStatuses : List Int32 := [100, 180, 200, 202, 400, 404, 405, 480, 500]

/-- The datagram is a response with this status. -/
def HasStatus (d : Datagram) (status : Int32) : Prop :=
  (cstr "SIP/2.0 " ++ intText status ++ cstr " ") <+: d.bytes

/-- What a datagram may be answered with. -/
structure Answered (peer : SockAddrIn) (data : List UInt8) (out : List Datagram) : Prop where
  toSender : ∀ d ∈ out, d.peer = peer
  atMostTwo : out.length ≤ 2
  /-- Responses and ACKs are not answered. -/
  request : out ≠ [] → ∃ msg, sipReceive peer data = .ok (some msg) ∧
    ¬ 0 < msg.statusCode.toInt ∧ msg.method ≠ .ack
  /-- Every other message that is received is answered. -/
  answers : ∀ msg, sipReceive peer data = .ok (some msg) → ¬ 0 < msg.statusCode.toInt →
    msg.method ≠ .ack → out ≠ []
  status : ∀ d ∈ out, ∃ status ∈ sentStatuses, HasStatus d status

/-- The same for what else happens, which is not answered. -/
def Traffic.Answered : Traffic → Prop
  | .datagram peer data out => Route.Answered peer data out
  | .script _ => True

/-! ## Section 2: Responses -/

variable {p : Platform} {msg : SipMessage} {s s' : RouteState}

theorem length_sipSendResponse (msg : SipMessage) (status : Int32) (reason : CStr) :
    (sipSendResponse msg status reason).length ≤ 1 := by
  unfold sipSendResponse
  split
  · exact Nat.zero_le 1
  · split
    · exact le_refl 1
    · exact Nat.zero_le 1

theorem mem_sipSendResponse {status : Int32} {reason : CStr} {d : Datagram}
    (hd : d ∈ sipSendResponse msg status reason) :
    d.peer = msg.srcAddr ∧ HasStatus d status := by
  unfold sipSendResponse sipGenerateResponse at hd
  split at hd
  · cases hd
  · next bytes hbytes =>
    split at hd
    · obtain rfl := List.mem_singleton.mp hd
      split at hbytes
      · obtain rfl := Option.some.inj hbytes
        refine ⟨rfl, ?_⟩
        unfold HasStatus responseText
        -- the start line stands in front
        repeat rw [List.append_assoc (cstr "SIP/2.0 " ++ intText status ++ cstr " ")]
        exact List.prefix_append _ _
      · cases hbytes
    · cases hd

/-- What is received was accepted by the parser, and has the address of the
    sender. -/
theorem sipReceive_accepted {peer : SockAddrIn} {data : List UInt8}
    (hmsg : sipReceive peer data = .ok (some msg)) :
    ∃ m, msg = { m with srcAddr := peer, srcLen := sockAddrInSize } ∧
      (¬ 0 < msg.statusCode.toInt → AcceptedRequest (data.take (sipMaxRawLen - 1)) m) := by
  unfold sipReceive at hmsg
  by_cases hempty : (data.take (sipMaxRawLen - 1)).length = 0
  · rw [if_pos hempty] at hmsg
    cases hmsg
  · have hpos : 1 ≤ (data.take (sipMaxRawLen - 1)).length := by omega
    obtain ⟨⟨err, m⟩, hparse, -⟩ := sipParseMessage_spec hpos .zero
    simp only [if_neg hempty, hparse] at hmsg
    by_cases herr : err ≠ .ok
    · cases (if_pos herr).symm.trans hmsg
    · replace hmsg := (if_neg herr).symm.trans hmsg
      by_cases hvalid :
          sipValidateMessage { m with srcAddr := peer, srcLen := sockAddrInSize } ≠ 0
      · cases (if_pos hvalid).symm.trans hmsg
      · obtain rfl := Option.some.inj (Except.ok.inj ((if_neg hvalid).symm.trans hmsg))
        refine ⟨m, rfl, fun hrequest => ?_⟩
        obtain rfl : err = .ok := not_not.mp herr
        have hshort : (data.take (sipMaxRawLen - 1)).length < sipMaxRawLen := by
          have hle := List.length_take_le (sipMaxRawLen - 1) data
          have hroom : 0 < sipMaxRawLen := by decide
          omega
        exact ⟨hpos, hshort, hparse, not_not.mp hvalid, not_lt.mp hrequest⟩

theorem sipReceive_srcAddr {peer : SockAddrIn} {data : List UInt8}
    (hmsg : sipReceive peer data = .ok (some msg)) : msg.srcAddr = peer := by
  obtain ⟨m, rfl, -⟩ := sipReceive_accepted hmsg
  rfl

/-- A response of the list to a request that was received is sent. -/
theorem sipSendResponse_ne_nil {peer : SockAddrIn} {data : List UInt8}
    (hmsg : sipReceive peer data = .ok (some msg)) (hrequest : ¬ 0 < msg.statusCode.toInt)
    {r : Int32 × CStr} (hr : r ∈ sentResponses) : sipSendResponse msg r.1 r.2 ≠ [] := by
  have hreason : 0 ∉ r.2 ∧ 13 ∉ r.2 ∧ 10 ∉ r.2 ∧ r.2.length ≤ 64 := by
    revert r
    decide
  obtain ⟨m, rfl, haccepted⟩ := sipReceive_accepted hmsg
  have hprintable : Printable { m with srcAddr := peer, srcLen := sockAddrInSize } :=
    (haccepted hrequest).fieldText
  have hfits := response_fits r.1 (some ⟨r.2, hreason.1, hreason.2.1, hreason.2.2.1⟩) hprintable
    hreason.2.2.2
  unfold sipSendResponse sipGenerateResponse
  rw [show some r.2 = (some (⟨r.2, hreason.1, hreason.2.1, hreason.2.2.1⟩ : ReasonPhrase)).map
    ReasonPhrase.bytes from rfl, if_pos hfits]
  simp [sockAddrInSize]

/-- The datagrams of a list of responses. -/
def sendResponses (msg : SipMessage) (responses : List (Int32 × CStr)) : List Datagram :=
  responses.flatMap fun r => sipSendResponse msg r.1 r.2

/-- Responses that a handler may send. -/
structure Sendable (msg : SipMessage) (responses : List (Int32 × CStr)) : Prop where
  atMostTwo : responses.length ≤ 2
  listed : ∀ r ∈ responses, r ∈ sentResponses
  request : responses ≠ [] ↔ ¬ 0 < msg.statusCode.toInt ∧ msg.method ≠ .ack

theorem length_sendResponses (msg : SipMessage) (responses : List (Int32 × CStr)) :
    (sendResponses msg responses).length ≤ responses.length := by
  unfold sendResponses
  induction responses with
  | nil => exact le_refl 0
  | cons r responses ih =>
    have hone := length_sipSendResponse msg r.1 r.2
    rw [List.flatMap_cons, List.length_append, List.length_cons]
    omega

theorem Sendable.answered {peer : SockAddrIn} {data : List UInt8}
    {responses : List (Int32 × CStr)} (h : Sendable msg responses)
    (hmsg : sipReceive peer data = .ok (some msg)) :
    Answered peer data (sendResponses msg responses) := by
  have hsent : ∀ d ∈ sendResponses msg responses, ∃ r ∈ responses,
      d ∈ sipSendResponse msg r.1 r.2 := fun d hd => List.mem_flatMap.mp hd
  constructor
  · intro d hd
    obtain ⟨r, -, hr⟩ := hsent d hd
    rw [(mem_sipSendResponse hr).1, sipReceive_srcAddr hmsg]
  · exact (length_sendResponses msg responses).trans h.atMostTwo
  · intro hne
    refine ⟨msg, hmsg, h.request.mp ?_⟩
    rintro rfl
    exact hne rfl
  · intro msg' hmsg' hrequest hack hnil
    obtain rfl := Option.some.inj (Except.ok.inj (hmsg.symm.trans hmsg'))
    obtain ⟨r, rest, rfl⟩ := List.exists_cons_of_ne_nil (h.request.mpr ⟨hrequest, hack⟩)
    have hfirst := sipSendResponse_ne_nil hmsg hrequest (h.listed r List.mem_cons_self)
    exact hfirst (List.append_eq_nil_iff.mp hnil).1
  · intro d hd
    obtain ⟨r, hmem, hr⟩ := hsent d hd
    have hstatus : ∀ r ∈ sentResponses, r.1 ∈ sentStatuses := by decide
    exact ⟨r.1, hstatus r (h.listed r hmem), (mem_sipSendResponse hr).2⟩

/-! ## Section 3: Handlers -/

/-- The responses to an INVITE that was routed. -/
def inviteResponses (code : Option Int) : List (Int32 × CStr) :=
  match code with
  | none => [(500, cstr "Server Internal Error")]
  | some code =>
    if Int32.ofInt code < 0 then [(500, cstr "Server Internal Error")]
    else [(100, cstr "Trying"), inviteResponse (Int32.ofInt code)]

theorem inviteDatagrams_eq (msg : SipMessage) (code : Option Int) :
    inviteDatagrams msg code = sendResponses msg (inviteResponses code) := by
  unfold inviteDatagrams inviteResponses sendResponses
  cases code with
  | none => simp
  | some code =>
    dsimp only
    split <;> simp

/-- The codes of a script in service lead to no other status. -/
theorem inviteResponses_listed {t : RouteTables} {r : Except LuaError Answer}
    (h : ∀ a, r = .ok a → Served t a) :
    (inviteResponses (resultCode r)).length ≤ 2 ∧ inviteResponses (resultCode r) ≠ [] ∧
      ∀ response ∈ inviteResponses (resultCode r), response ∈ sentResponses := by
  have hall : ∀ code ∈ servedResults.map RouteResult.code,
      (inviteResponses (some code)).length ≤ 2 ∧ inviteResponses (some code) ≠ [] ∧
        ∀ response ∈ inviteResponses (some code), response ∈ sentResponses := by decide
  have herror : (inviteResponses none).length ≤ 2 ∧ inviteResponses none ≠ [] ∧
      ∀ response ∈ inviteResponses none, response ∈ sentResponses := by decide
  cases r with
  | error e => exact herror
  | ok a => exact hall a.code (h a rfl).listed

/-- A message that is dispatched in service. -/
theorem sipDispatch_sendable (p : Platform) (msg : SipMessage) (h : InService s.tables) :
    InService (sipDispatch (routeVm p) msg s).2.tables ∧
      ∃ responses, Sendable msg responses ∧
        (sipDispatch (routeVm p) msg s).1 = sendResponses msg responses := by
  -- one response of the list
  have hone : ∀ r ∈ sentResponses, ¬ 0 < msg.statusCode.toInt → msg.method ≠ .ack →
      ∃ responses, Sendable msg responses ∧
        sipSendResponse msg r.1 r.2 = sendResponses msg responses := by
    intro r hr hrequest hack
    refine ⟨[r], ⟨Nat.le_succ 1, ?_, iff_of_true (List.cons_ne_nil _ _) ⟨hrequest, hack⟩⟩, ?_⟩
    · intro r' hr'
      rwa [List.mem_singleton.mp hr']
    · simp [sendResponses]
  have hnone : ¬ (¬ 0 < msg.statusCode.toInt ∧ msg.method ≠ .ack) →
      ∃ responses, Sendable msg responses ∧ [] = sendResponses msg responses := fun hnot =>
    ⟨[], ⟨by decide, nofun, iff_of_false (fun hne => hne rfl) hnot⟩, rfl⟩
  by_cases hresponse : 0 < msg.statusCode.toInt
  · unfold sipDispatch
    rw [if_pos hresponse]
    exact ⟨h, hnone fun hrequest => hrequest.1 hresponse⟩
  · cases hmethod : msg.method with
    | invite =>
      have hack : msg.method ≠ .ack := by rw [hmethod]; decide
      by_cases hnumbers : msg.callerNumber.cstring = [] ∨ msg.calleeNumber.cstring = []
      · unfold sipDispatch sipHandleInvite
        rw [if_neg hresponse, hmethod]
        dsimp only
        rw [if_pos hnumbers]
        dsimp only
        exact ⟨h, hone (400, _) (by decide) hresponse hack⟩
      · rw [sipDispatch_invite p hresponse hmethod hnumbers]
        have hserves := routeCall_serves (p := p) h (some msg.callerNumber.cstring)
          (some msg.calleeNumber.cstring)
        obtain ⟨hlength, hsome, hlisted⟩ := inviteResponses_listed hserves.1
        refine ⟨h.of_undisturbed hserves.2, _,
          ⟨hlength, hlisted, iff_of_true hsome ⟨hresponse, hack⟩⟩, ?_⟩
        exact inviteDatagrams_eq _ _
    | ack =>
      unfold sipDispatch
      rw [if_neg hresponse, hmethod]
      dsimp only
      exact ⟨h, hnone fun hrequest => hrequest.2 hmethod⟩
    | _ =>
      have hack : msg.method ≠ .ack := by rw [hmethod]; decide
      unfold sipDispatch
      rw [if_neg hresponse, hmethod]
      dsimp only
      exact ⟨h, hone (_, _) (by decide) hresponse hack⟩

/-! ## Section 4: Runs -/

theorem datagram_answered (h : InService s.tables) {peer : SockAddrIn} {data : List UInt8}
    {out : List Datagram} (hout : sipHandleDatagram (routeVm p) peer data s = .ok (out, s')) :
    InService s'.tables ∧ Answered peer data out := by
  rcases sipHandleDatagram_cases peer data with ⟨hdiscarded, hnone⟩ | ⟨msg, hmsg, hdispatch⟩
  · rw [hnone] at hout
    obtain ⟨rfl, rfl⟩ := Prod.mk.inj (Except.ok.inj hout)
    refine ⟨h, fun _ hnil => absurd hnil List.not_mem_nil, Nat.zero_le 2,
      fun hne => absurd rfl hne, fun msg hmsg => ?_, fun _ hnil => absurd hnil List.not_mem_nil⟩
    rw [hdiscarded] at hmsg
    cases hmsg
  · rw [hdispatch] at hout
    obtain ⟨hservice, responses, hsendable, heq⟩ := sipDispatch_sendable p msg h
    rw [Except.ok.inj hout] at hservice heq
    dsimp only at hservice heq
    rw [heq]
    exact ⟨hservice, hsendable.answered hmsg⟩

/-- **Traffic**: in every run since the script was loaded, each request but an
    ACK is answered to its sender, with one or two responses, none of them a
    486; responses and ACKs are not answered. -/
theorem traffic_answered {reads : Nat} {events : List Traffic}
    (hrun : Run (trafficStep p) (loadedState p reads) events s) :
    InService s.tables ∧ ∀ event ∈ events, event.Answered := by
  have hinit : InService (loadedState p reads).tables := (loadedState_fresh p reads).inService
  induction hrun with
  | nil => exact ⟨hinit, fun _ hnil => absurd hnil List.not_mem_nil⟩
  | @snoc t u events event _ hstep ih =>
    obtain ⟨ht, hevents⟩ := ih
    have hlast : InService u.tables ∧ event.Answered := by
      cases event with
      | datagram peer data out => exact datagram_answered ht hstep
      | script call =>
        obtain rfl : scriptStep p t call = u := hstep
        exact ⟨scriptStep_inService ht call, trivial⟩
    refine ⟨hlast.1, fun event' hevent' => ?_⟩
    rcases List.mem_append.mp hevent' with hold | hnew
    · exact hevents event' hold
    · rw [List.mem_singleton.mp hnew]
      exact hlast.2

/-- The INVITE of a caller to sales. -/
theorem traffic_answered_invite :
    ∃ out s', sipHandleDatagram (routeVm mondayMorning) peerAddress (inviteTo (cstr "1"))
        (loadedState mondayMorning 0) = .ok (out, s') ∧ out ≠ [] ∧
      Answered peerAddress (inviteTo (cstr "1")) out := by
  obtain ⟨msg, hmsg, hstatus, hmethod, -⟩ := receivedAs_some receivedAs_one
  obtain ⟨out, s', hfirst⟩ : ∃ out s', sipHandleDatagram (routeVm mondayMorning) peerAddress
      (inviteTo (cstr "1")) (loadedState mondayMorning 0) = .ok (out, s') := by
    rcases sipHandleDatagram_cases peerAddress (inviteTo (cstr "1")) with
      ⟨-, hnone⟩ | ⟨msg, -, hdispatch⟩
    · exact ⟨_, _, hnone _ _⟩
    · exact ⟨_, _, hdispatch _ _⟩
  have hrun : Run (trafficStep mondayMorning) (loadedState mondayMorning 0)
      [.datagram peerAddress (inviteTo (cstr "1")) out] s' := Run.single hfirst
  have hanswered : Answered peerAddress (inviteTo (cstr "1")) out :=
    (traffic_answered hrun).2 _ List.mem_cons_self
  have hack : msg.method ≠ .ack := by rw [hmethod]; decide
  exact ⟨out, s', hfirst, hanswered.answers msg hmsg hstatus hack, hanswered⟩

end Route
