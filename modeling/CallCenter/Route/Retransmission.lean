import CallCenter.Route.Handout
import CallCenter.Route.Repetition
import CallCenter.SipHandler.Dispatch
import CallCenter.SipHandler.Parse

/-! # Retransmitted Requests

    A peer that hears nothing repeats its INVITE.  `sip_handler.c` keeps no
    transactions, so the datagram is parsed and routed again, and whether it
    has the same effect is up to `route.lua`.

    At a clock that stands still the second delivery gets the same responses
    and changes no counter and no queue (`retransmission`), unless the first
    has counted an invalid key or queued the caller.  A counter is raised
    twice (`retransmission_counts`). -/

namespace Route

open CFormat CMemory Lua Script LuaUtils SipHandler Transition

/-! ## Section 1: The script behind the C interface -/

/-- `route_call` as the global function that C looks up. -/
def routeFunction (p : Platform) : ScriptFunction RouteState := fun callerId digits s =>
  match outcome (routeCall p (some callerId) (some digits)) s with
  | (.ok a, s') => (.table ⟨some a.code, some a.target, some a.department, some a.description⟩, s')
  | (.error _, s') => (.raised, s')

/-- The VM with the script loaded. -/
def routeVm (p : Platform) : Vm RouteState := some (some (routeFunction p))

/-- What an INVITE is answered with. -/
def inviteDatagrams (msg : SipMessage) (code : Option Int) : List Datagram :=
  match code with
  | none => sipSendResponse msg 500 (cstr "Server Internal Error")
  | some code =>
    if Int32.ofInt code < 0 then sipSendResponse msg 500 (cstr "Server Internal Error")
    else
      sipSendResponse msg 100 (cstr "Trying") ++
        sipSendResponse msg (inviteResponse (Int32.ofInt code)).1
          (inviteResponse (Int32.ofInt code)).2

/-- The route of a message that names a caller and a callee. -/
def routeMessage (p : Platform) (msg : SipMessage) (s : RouteState) :
    Except LuaError Answer × RouteState :=
  outcome (routeCall p (some msg.callerNumber.cstring) (some msg.calleeNumber.cstring)) s

theorem luaVmCallRoute_ok {p : Platform} {callerId digits : CStr} {s s' : RouteState} {a : Answer}
    (h : outcome (routeCall p (some callerId) (some digits)) s = (.ok a, s')) :
    ∃ resp, resp.code = Int32.ofInt a.code ∧
      luaVmCallRoute (some (routeFunction p)) (some callerId) digits s =
        (Int32.ofInt a.code, resp, s') := by
  unfold luaVmCallRoute routeFunction
  simp only [Option.getD_some, h]
  exact ⟨_, rfl, rfl⟩

theorem luaVmCallRoute_error {p : Platform} {callerId digits : CStr} {s s' : RouteState}
    {e : LuaError} (h : outcome (routeCall p (some callerId) (some digits)) s = (.error e, s')) :
    ∃ resp, luaVmCallRoute (some (routeFunction p)) (some callerId) digits s = (-1, resp, s') := by
  unfold luaVmCallRoute routeFunction
  simp only [Option.getD_some, h]
  exact ⟨_, rfl⟩

/-- The responses to an INVITE depend on nothing but the code. -/
theorem sipHandleInvite_routeVm (p : Platform) {msg : SipMessage} (s : RouteState)
    (hnumbers : ¬ (msg.callerNumber.cstring = [] ∨ msg.calleeNumber.cstring = [])) :
    sipHandleInvite (routeVm p) msg s =
      (inviteDatagrams msg (resultCode (routeMessage p msg s).1), (routeMessage p msg s).2) := by
  unfold sipHandleInvite routeVm
  rw [if_neg hnumbers]
  dsimp only
  cases hrun : routeMessage p msg s with
  | mk r s' =>
    cases r with
    | error e =>
      obtain ⟨resp, hlua⟩ := luaVmCallRoute_error hrun
      rw [hlua]
      rfl
    | ok a =>
      obtain ⟨resp, hcode, hlua⟩ := luaVmCallRoute_ok hrun
      rw [hlua]
      unfold inviteDatagrams
      dsimp only [resultCode]
      rw [hcode]
      split <;> rfl

/-! ## Section 2: The datagram again -/

/-- The message that a datagram is dispatched as, if it is not discarded. -/
def sipReceive (peer : SockAddrIn) (data : List UInt8) : Checked (Option SipMessage) :=
  if (data.take (sipMaxRawLen - 1)).length = 0 then .ok none
  else do
    let buf := data.take (sipMaxRawLen - 1)
    let parsed ← sipParseMessage (buf ++ [0]) buf.length .zero
    if parsed.1 ≠ .ok then return none
    else
      let msg := { parsed.2 with srcAddr := peer, srcLen := sockAddrInSize }
      if sipValidateMessage msg ≠ 0 then return none
      else return some msg

/-- Every datagram is discarded or dispatched, whatever the state is. -/
theorem sipHandleDatagram_cases {σ : Type} (peer : SockAddrIn) (data : List UInt8) :
    (sipReceive peer data = .ok none ∧
        ∀ (vm : Vm σ) s, sipHandleDatagram vm peer data s = .ok ([], s)) ∨
      ∃ msg, sipReceive peer data = .ok (some msg) ∧
        ∀ (vm : Vm σ) s, sipHandleDatagram vm peer data s = .ok (sipDispatch vm msg s) := by
  unfold sipHandleDatagram sipReceive
  by_cases hempty : (data.take (sipMaxRawLen - 1)).length = 0
  · left
    exact ⟨if_pos hempty, fun vm s => if_pos hempty⟩
  · have hpos : 1 ≤ (data.take (sipMaxRawLen - 1)).length := by omega
    obtain ⟨⟨err, m⟩, hparse, -⟩ := sipParseMessage_spec hpos .zero
    simp only [if_neg hempty, hparse]
    by_cases herr : err ≠ .ok
    · left
      exact ⟨if_pos herr, fun vm s => if_pos herr⟩
    · by_cases hvalid :
          sipValidateMessage { m with srcAddr := peer, srcLen := sockAddrInSize } ≠ 0
      · left
        exact ⟨(if_neg herr).trans (if_pos hvalid), fun vm s => (if_neg herr).trans (if_pos hvalid)⟩
      · right
        refine ⟨{ m with srcAddr := peer, srcLen := sockAddrInSize }, ?_, fun vm s => ?_⟩
        · exact (if_neg herr).trans (if_neg hvalid)
        · exact (if_neg herr).trans (if_neg hvalid)

/-- The counters and the queues are the same. -/
def SameRecords (t t' : RouteTables) : Prop :=
  t'.invalidKeyCount = t.invalidKeyCount ∧ t'.timeoutRetryCount = t.timeoutRetryCount ∧
    t'.queue = t.queue

/-- A second delivery of the datagram gets the same responses and leaves the
    counters and the queues as the first did. -/
def Retransmits (p : Platform) (peer : SockAddrIn) (data : List UInt8) (s : RouteState) : Prop :=
  ∃ out s' s'', sipHandleDatagram (routeVm p) peer data s = .ok (out, s') ∧
    sipHandleDatagram (routeVm p) peer data s' = .ok (out, s'') ∧
      SameRecords s'.tables s''.tables

/-- The condition on the first delivery of an INVITE. -/
def InviteRepeats (p : Platform) (s : RouteState) (now : Int) (msg : SipMessage) : Prop :=
  msg.method = .invite →
    CallRepeats p s now (some msg.callerNumber.cstring) (some msg.calleeNumber.cstring)

theorem sipDispatch_invite (p : Platform) {msg : SipMessage}
    (hstatus : ¬ 0 < msg.statusCode.toInt) (hmethod : msg.method = .invite)
    (hnumbers : ¬ (msg.callerNumber.cstring = [] ∨ msg.calleeNumber.cstring = []))
    (s : RouteState) :
    sipDispatch (routeVm p) msg s =
      (inviteDatagrams msg (resultCode (routeMessage p msg s).1), (routeMessage p msg s).2) := by
  unfold sipDispatch
  rw [if_neg hstatus, hmethod]
  exact sipHandleInvite_routeVm p s hnumbers

/-- Only an INVITE with both numbers gets to the script. -/
theorem sipDispatch_cases (p : Platform) (msg : SipMessage) :
    (∃ out, ∀ s, sipDispatch (routeVm p) msg s = (out, s)) ∨
      msg.method = .invite ∧ msg.calleeNumber.cstring ≠ [] ∧
        ∀ s, sipDispatch (routeVm p) msg s =
          (inviteDatagrams msg (resultCode (routeMessage p msg s).1),
            (routeMessage p msg s).2) := by
  by_cases hstatus : 0 < msg.statusCode.toInt
  · left
    exact ⟨[], fun s => if_pos hstatus⟩
  · cases hmethod : msg.method with
    | invite =>
      by_cases hnumbers : msg.callerNumber.cstring = [] ∨ msg.calleeNumber.cstring = []
      · left
        refine ⟨sipSendResponse msg 400 (cstr "Bad Request"), fun s => ?_⟩
        unfold sipDispatch
        rw [if_neg hstatus, hmethod]
        exact if_pos hnumbers
      · right
        exact ⟨rfl, (not_or.mp hnumbers).2, sipDispatch_invite p hstatus hmethod hnumbers⟩
    | _ =>
      left
      unfold sipDispatch
      simp only [if_neg hstatus, hmethod]
      exact ⟨_, fun s => rfl⟩

/-- **A retransmission** of a datagram that counts no key and queues nobody is
    answered alike and changes nothing. -/
theorem retransmission {p : Platform} {now : Int} (hclock : ∀ n, p.clock n = now)
    (peer : SockAddrIn) (data : List UInt8) (s : RouteState)
    (hrepeats : ∀ msg, sipReceive peer data = .ok (some msg) → InviteRepeats p s now msg) :
    Retransmits p peer data s := by
  rcases sipHandleDatagram_cases peer data with ⟨-, hnone⟩ | ⟨msg, hmsg, hdispatch⟩
  · exact ⟨[], s, s, hnone _ _, hnone _ _, rfl, rfl, rfl⟩
  rcases sipDispatch_cases p msg with ⟨out, hout⟩ | ⟨hinvite, hcallee, hroute⟩
  · have hsame : sipHandleDatagram (routeVm p) peer data s = .ok (out, s) := by
      rw [hdispatch, hout]
    exact ⟨out, s, s, hsame, hsame, rfl, rfl, rfl⟩
  · have hdigits : (some msg.calleeNumber.cstring).getD [] ≠ [] := hcallee
    obtain ⟨hcode, htables⟩ := routeCall_again hclock hdigits s (hrepeats msg hmsg hinvite)
    refine ⟨inviteDatagrams msg (resultCode (routeMessage p msg s).1), (routeMessage p msg s).2,
      (routeMessage p msg (routeMessage p msg s).2).2, ?_, ?_, ?_⟩
    · rw [hdispatch, hroute]
    · rw [hdispatch, hroute]
      exact congrArg (fun code => Except.ok (inviteDatagrams msg code, _)) hcode
    · unfold SameRecords
      rw [show (routeMessage p msg (routeMessage p msg s).2).2.tables =
        (routeMessage p msg s).2.tables from htables]
      exact ⟨rfl, rfl, rfl⟩

/-! ## Section 3: Two deliveries after a load -/

theorem mondayMorning_clock (n : Nat) : mondayMorning.clock n = 0 := rfl

def peerAddress : SockAddrIn := ⟨0, 5060⟩

/-- An INVITE from 4001 to a number. -/
def inviteTo (callee : CStr) : CStr :=
  cstr "INVITE sip:" ++ callee ++ cstr "@h SIP/2.0\x0d\n" ++
    cstr "From: <sip:4001@h>\x0d\nTo: <sip:" ++ callee ++ cstr "@h>\x0d\n" ++
    cstr "Call-ID: a\x0d\nCSeq: 1 INVITE\x0d\n\x0d\n"

/-- The INVITE that is dispatched has these numbers. -/
def ReceivedAs (callee : CStr) (r : Checked (Option SipMessage)) : Bool :=
  match r with
  | .ok (some msg) =>
    !decide (0 < msg.statusCode.toInt) && msg.method = .invite &&
      msg.callerNumber.cstring = cstr "4001" && msg.calleeNumber.cstring = callee
  | _ => false

theorem receivedAs_one :
    ReceivedAs (cstr "1") (sipReceive peerAddress (inviteTo (cstr "1"))) = true := by
  decide +kernel

theorem receivedAs_seven :
    ReceivedAs (cstr "7") (sipReceive peerAddress (inviteTo (cstr "7"))) = true := by
  decide +kernel

theorem receivedAs_some {callee : CStr} {r : Checked (Option SipMessage)}
    (h : ReceivedAs callee r = true) :
    ∃ msg, r = .ok (some msg) ∧ ¬ 0 < msg.statusCode.toInt ∧ msg.method = .invite ∧
      msg.callerNumber.cstring = cstr "4001" ∧ msg.calleeNumber.cstring = callee := by
  unfold ReceivedAs at h
  split at h
  · next msg =>
    simp only [Bool.and_eq_true, Bool.not_eq_true', decide_eq_true_eq, decide_eq_false_iff_not,
      and_assoc] at h
    exact ⟨msg, rfl, h⟩
  · cases h

/-- An INVITE to sales. -/
theorem retransmission_sales :
    Retransmits mondayMorning peerAddress (inviteTo (cstr "1")) openingDesk.state := by
  obtain ⟨msg, hmsg, -, -, hcaller, hcallee⟩ := receivedAs_some receivedAs_one
  apply retransmission mondayMorning_clock
  intro msg' hmsg' _ _
  rw [hmsg] at hmsg'
  obtain rfl := Option.some.inj (Except.ok.inj hmsg')
  have hsales : ivrMap (cstr "1") = some (cstr "sales") := by decide +kernel
  rw [hcallee, openingDesk_allIdle.callDecision 0 _ (by decide) hsales]
  trivial

theorem AllIdle.setInvalidKeys {t : RouteTables} (h : AllIdle t) (callerId : CStr) (n : Nat) :
    AllIdle (t.setInvalidKeys callerId n) :=
  ⟨h.force, h.config, h.idle, h.staffed⟩

/-- The first keys that lead nowhere. -/
theorem AllIdle.keyRetry {s : RouteState} (h : AllIdle s.tables) (now : Int) {callerId : CStr}
    {key : CStr} (hkey : key ≠ []) (hmap : ivrMap key = none)
    (hcount : s.tables.nextInvalidKeys (some callerId) < 3) :
    Route.callDecision mondayMorning s now (some callerId) (some key) = .keyRetry := by
  have hlimit : ¬ s.tables.config.maxInvalidKeys.le
      (.int (s.tables.nextInvalidKeys (some callerId))) = true := by
    rw [h.config]
    show ¬ (LuaNumber.int 3).le (.int (s.tables.nextInvalidKeys (some callerId))) = true
    rw [le_int_int, decide_eq_true_eq]
    omega
  show decision mondayMorning s.tables (workTimeAt s.tables ⟨2, 9, 0⟩) now _ _ = _
  rw [h.workTime]
  show ivrDecision s.tables now (some callerId) (some key) = _
  unfold ivrDecision
  rw [Option.getD_some, if_neg hkey, hmap]
  exact if_neg hlimit

/-- A caller who presses 7 is counted. -/
theorem AllIdle.counts {s : RouteState} (h : AllIdle s.tables) {msg : SipMessage}
    (hcaller : msg.callerNumber.cstring = cstr "4001")
    (hcallee : msg.calleeNumber.cstring = cstr "7")
    (hcount : s.tables.nextInvalidKeys (some (cstr "4001")) < 3) :
    (routeMessage mondayMorning msg s).2.tables =
      s.tables.setInvalidKeys (cstr "4001")
        (s.tables.nextInvalidKeys (some (cstr "4001"))) := by
  unfold routeMessage
  rw [hcaller, hcallee, routeCall_effect mondayMorning_clock (by decide +kernel),
    h.keyRetry 0 (by decide) (by decide +kernel) hcount]
  rfl

/-- An INVITE to 7, where no department is. -/
theorem retransmission_counts :
    ¬ ∀ (p : Platform) (now : Int) (reads : Nat) (s : RouteState) (peer : SockAddrIn)
        (data : List UInt8),
      (∀ n, p.clock n = now) → Reachable (ofFun (routeStep p)) (loadedState p reads) s →
        (∀ msg, sipReceive peer data = .ok (some msg) → msg.method = .invite) →
          Retransmits p peer data s := by
  intro h
  obtain ⟨msg, hmsg, hstatus, hmethod, hcaller, hcallee⟩ := receivedAs_some receivedAs_seven
  have honly : ∀ msg', sipReceive peerAddress (inviteTo (cstr "7")) = .ok (some msg') →
      msg' = msg := by
    intro msg' hmsg'
    rw [hmsg] at hmsg'
    exact (Option.some.inj (Except.ok.inj hmsg')).symm
  obtain ⟨out, s', s'', hfirst, hsecond, hcounters, -⟩ :=
    h mondayMorning 0 0 openingDesk.state peerAddress (inviteTo (cstr "7")) mondayMorning_clock
      ⟨[], Run.nil _⟩ (fun msg' hmsg' => honly msg' hmsg' ▸ hmethod)
  have hdeliver : ∀ s,
      sipHandleDatagram (routeVm mondayMorning) peerAddress (inviteTo (cstr "7")) s =
        .ok (sipDispatch (routeVm mondayMorning) msg s) := by
    rcases sipHandleDatagram_cases peerAddress (inviteTo (cstr "7")) with ⟨hnone, -⟩ | hsome
    · rw [hmsg] at hnone
      cases hnone
    · obtain ⟨msg', hmsg', hdispatch⟩ := hsome
      rw [← honly msg' hmsg']
      exact hdispatch _
  have hnumbers : ¬ (msg.callerNumber.cstring = [] ∨ msg.calleeNumber.cstring = []) := by
    rw [hcaller, hcallee]
    decide
  have hroute := sipDispatch_invite mondayMorning hstatus hmethod hnumbers
  rw [hdeliver, hroute] at hfirst hsecond
  obtain ⟨-, rfl⟩ := Prod.mk.inj (Except.ok.inj hfirst)
  obtain ⟨-, rfl⟩ := Prod.mk.inj (Except.ok.inj hsecond)
  -- the counter is 1 after the first delivery and 2 after the second
  have hone : openingDesk.state.tables.nextInvalidKeys (some (cstr "4001")) = 1 := by
    show (loadedState mondayMorning 0).tables.nextInvalidKeys _ = 1
    rw [(loadedState_fresh mondayMorning 0).declared]
    rfl
  have hafter := openingDesk_allIdle.counts hcaller hcallee (by omega)
  rw [hone] at hafter
  generalize (routeMessage mondayMorning msg openingDesk.state).2 = s' at hafter hcounters
  have htwo : s'.tables.nextInvalidKeys (some (cstr "4001")) = 2 := by
    rw [hafter]
    simp [RouteTables.nextInvalidKeys, counted]
  have hidle : AllIdle s'.tables := by
    rw [hafter]
    exact openingDesk_allIdle.setInvalidKeys _ _
  have htwice := hidle.counts hcaller hcallee (by omega)
  rw [htwice, htwo, hafter] at hcounters
  have hsame := congrFun hcounters (cstr "4001")
  simp at hsame

end Route
