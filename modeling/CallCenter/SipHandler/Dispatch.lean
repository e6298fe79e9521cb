import CallCenter.SipHandler.Message
import CallCenter.LuaUtils.CallRoute

/-! # Handling a Message

    The handlers of `sip_handler.c`: what is sent for a message, and what
    becomes of the state `σ` of the routing script.  A handler returns the
    datagrams it gives to `es_send_all`, in order; what the socket does with
    them is only logged. -/

namespace SipHandler

open CFormat CMemory LuaUtils

/-- A response and where it goes. -/
structure Datagram where
  bytes : CStr
  peer : SockAddrIn
  deriving DecidableEq, Repr

/-- `sip_send_response`; there is always a request. -/
def sipSendResponse (request : SipMessage) (statusCode : Int32) (reasonPhrase : CStr) :
    List Datagram :=
  match sipGenerateResponse (some request) statusCode (some reasonPhrase) sipRespBufSize with
  | none => []
  | some bytes => if 0 < request.srcLen then [⟨bytes, request.srcAddr⟩] else []

/-- The response of the `switch` in `sip_handle_invite`. -/
def inviteResponse (code : Int32) : Int32 × CStr :=
  if code = Int32.ofInt RouteResult.success.code then (180, cstr "Ringing")
  else if code = Int32.ofInt RouteResult.deptFull.code ∨
      code = Int32.ofInt RouteResult.agentOffline.code then (486, cstr "Busy Here")
  else if code = Int32.ofInt RouteResult.invalidDigits.code then (404, cstr "Not Found")
  else if code = Int32.ofInt RouteResult.nightMode.code ∨
      code = Int32.ofInt RouteResult.voicemail.code then (480, cstr "Temporarily Unavailable")
  else if code = Int32.ofInt RouteResult.queued.code ∨
      code = Int32.ofInt RouteResult.fallbackAgent.code ∨
      code = Int32.ofInt RouteResult.timeoutRetry.code ∨
      code = Int32.ofInt RouteResult.invalidKeyRetry.code then (180, cstr "Ringing")
  else (500, cstr "Server Internal Error")

variable {σ : Type}

/-- `el->user_data`, the VM; its `route_call` may be missing. -/
abbrev Vm (σ : Type) : Type := Option (Option (ScriptFunction σ))

def sipHandleInvite (vm : Vm σ) (msg : SipMessage) (s : σ) : List Datagram × σ :=
  if msg.callerNumber.cstring = [] ∨ msg.calleeNumber.cstring = [] then
    (sipSendResponse msg 400 (cstr "Bad Request"), s)
  else
    match vm with
    | none => (sipSendResponse msg 500 (cstr "Server Internal Error"), s)
    | some routeCall =>
      match luaVmCallRoute routeCall (some msg.callerNumber.cstring) msg.calleeNumber.cstring s with
      | (result, resp, s') =>
        if result < 0 then (sipSendResponse msg 500 (cstr "Server Internal Error"), s')
        else
          (sipSendResponse msg 100 (cstr "Trying") ++
            sipSendResponse msg (inviteResponse resp.code).1 (inviteResponse resp.code).2, s')

/-- `sip_dispatch`; a response is ignored. -/
def sipDispatch (vm : Vm σ) (msg : SipMessage) (s : σ) : List Datagram × σ :=
  if 0 < msg.statusCode.toInt then ([], s)
  else
    match msg.method with
    | .invite => sipHandleInvite vm msg s
    | .ack => ([], s)
    | .bye => (sipSendResponse msg 200 (cstr "OK"), s)
    | .cancel => (sipSendResponse msg 200 (cstr "OK"), s)
    | .options => (sipSendResponse msg 200 (cstr "OK"), s)
    | .refer => (sipSendResponse msg 202 (cstr "Accepted"), s)
    | .register => (sipSendResponse msg 200 (cstr "OK"), s)
    | _ => (sipSendResponse msg 405 (cstr "Method Not Allowed"), s)

/-- `sizeof(struct sockaddr_in)`, which `recvfrom` writes to `peer_len`. -/
def sockAddrInSize : Nat := 16

/-- One round of the loop of `sip_handler_on_read`, for a datagram of the
    peer.  `buf` holds at most `SIP_MAX_RAW_LEN - 1` bytes of it. -/
def sipHandleDatagram (vm : Vm σ) (peer : SockAddrIn) (data : List UInt8) (s : σ) :
    Checked (List Datagram × σ) :=
  if (data.take (sipMaxRawLen - 1)).length = 0 then .ok ([], s)
  else do
    let buf := data.take (sipMaxRawLen - 1)
    let parsed ← sipParseMessage (buf ++ [0]) buf.length .zero
    if parsed.1 ≠ .ok then return ([], s)
    else
      let msg := { parsed.2 with srcAddr := peer, srcLen := sockAddrInSize }
      if sipValidateMessage msg ≠ 0 then return ([], s)
      else return sipDispatch vm msg s

end SipHandler
