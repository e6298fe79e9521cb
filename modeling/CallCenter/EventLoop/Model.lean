import Mathlib.Algebra.Group.Nat.Defs
import Mathlib.Data.Fintype.Basic
import Mathlib.Data.List.FinRange
import CallCenter.Framework.Descriptors

/-! # The epoll Event Loop

    `event_loop.c`: a table of connection slots, the callbacks that handle
    their events, the idle sweep and the loop around them.

    Modelling decisions:
    * The table has `n` slots (`conn_capacity`); a `connection_t *` is a slot
      number.
    * What a system call reports is an argument of the function that makes
      the call: one `Bool` for a call that can only fail or succeed, a list
      of answers for a loop that calls until nothing is left.  Impossible
      answers (a new descriptor that is already open, data from a descriptor
      that is not open) are replaced by a failure.
    * `remote_addr`, `remote_port`, `user_data`, `create_time` and the RTP
      fields are written or logged but never read here, and are left out.
    * `send` and `sendto` differ only in the destination they are given,
      which is left out as well. -/

namespace EpollServer

open Descriptors

/-! ## Section 1: Data -/

/-- `conn_type_t` -/
inductive ConnType where
  | free
  | tcpListen
  | tcpClient
  | udpSip
  | udpRtp
  deriving DecidableEq, Repr

/-- `conn_state_t` -/
inductive ConnState where
  | active
  | closing
  | error
  deriving DecidableEq, Repr

/-- `connection_t`; `sendBuf` is the written part of `send_buf`. -/
structure Connection where
  fd : Int
  type : ConnType
  state : ConnState
  lastActive : Int
  sendBuf : List UInt8
  sendLen : Int
  sendOffset : Int

/-- The all-zero bytes that `calloc` and `memset` leave. -/
def Connection.zero : Connection where
  fd := 0
  type := .free
  state := .active
  lastActive := 0
  sendBuf := []
  sendLen := 0
  sendOffset := 0

/-- The two read callbacks of the program. -/
inductive OnRead where
  | elDefaultOnRead
  | sipHandlerOnRead
  deriving DecidableEq, Repr

/-- `el_callbacks_t`.  All but `on_read` have one implementation, so that
    only NULL (`false`) or not is recorded; `on_idle` is NULL throughout. -/
structure Callbacks where
  onAccept : Bool
  onRead : Option OnRead
  onWrite : Bool
  onError : Bool
  onClose : Bool
  deriving DecidableEq, Repr

/-- The defaults that `el_create` installs. -/
def defaultCallbacks : Callbacks where
  onAccept := true
  onRead := some .elDefaultOnRead
  onWrite := true
  onError := true
  onClose := true

/-- `server_config_t` -/
structure ServerConfig where
  sipPort : UInt16
  tcpBacklog : Int
  maxConnections : Int
  idleTimeoutSec : Int
  epollTimeoutMs : Int
  epollMaxEvents : Int
  deriving DecidableEq, Repr

/-- `MAX_CONCURRENT_CALLS` -/
def maxConcurrentCalls : Int := 2048

/-- `CONNECTION_IDLE_TIMEOUT_SEC` -/
def connectionIdleTimeoutSec : Int := 300

/-- `EPOLL_WAIT_TIMEOUT_MS` -/
def epollWaitTimeoutMs : Int := 100

/-- `MAX_EPOLL_EVENTS` -/
def maxEpollEvents : Int := 1024

/-- `SERVER_TCP_BACKLOG` -/
def serverTcpBacklog : Int := 128

/-- `IDLE_CHECK_INTERVAL_SEC` -/
def idleCheckIntervalSec : Int := 10

/-- `event_loop_s`, with the kernel it runs on. -/
structure EventLoop (n : Nat) where
  config : ServerConfig
  callbacks : Callbacks
  connections : Fin n → Connection
  activeCount : Int
  sipListenFd : Int
  lastIdleCheck : Int
  kernel : Kernel

variable {n : Nat}

def EventLoop.setConn (el : EventLoop n) (i : Fin n) (c : Connection) : EventLoop n :=
  { el with connections := Function.update el.connections i c }

/-! ### Event masks -/

def EPOLLIN : Mask := 0x001
def EPOLLOUT : Mask := 0x004
def EPOLLERR : Mask := 0x008
def EPOLLHUP : Mask := 0x010
def EPOLLRDHUP : Mask := 0x2000
def EPOLLET : Mask := 0x80000000

/-- `DEFAULT_TCP_EVENTS` -/
def defaultTcpEvents : Mask := EPOLLIN ||| EPOLLRDHUP ||| EPOLLERR ||| EPOLLHUP ||| EPOLLET

/-- `DEFAULT_UDP_EVENTS` -/
def defaultUdpEvents : Mask := EPOLLIN ||| EPOLLERR ||| EPOLLHUP ||| EPOLLET

/-- `events & bits` as a condition. -/
def has (events bits : Mask) : Bool := events &&& bits ≠ 0

/-- The mask a connection goes back to when nothing is left to send. -/
def regEvents (type : ConnType) : Mask :=
  if type = .tcpClient then defaultTcpEvents else defaultUdpEvents

def isUdp (type : ConnType) : Bool := type = .udpSip || type = .udpRtp

/-! ### Answers of the kernel -/

/-- `send` and `sendto` -/
inductive SendAnswer where
  | accepted (count : Nat)
  | again
  | interrupted
  | failed
  deriving DecidableEq, Repr

/-- One message that `sip_dispatch` sends, and what became of it. -/
structure SipReply where
  data : List UInt8
  answer : SendAnswer
  deriving DecidableEq, Repr

/-- `read` and `recvfrom`.  `replies` is what the SIP handler sends for a
    datagram; it depends on the Lua state and is chosen freely. -/
inductive ReadAnswer where
  | bytes (data : List UInt8) (replies : List SipReply)
  | again
  | interrupted
  | failed
  deriving DecidableEq, Repr

/-- `accept`, with what follows for the new descriptor: whether
    `es_set_nonblocking` works, the clock and `epoll_ctl ADD` in
    `el_add_connection`. -/
inductive AcceptAnswer where
  | accepted (fd : Int) (nonblockOk : Bool) (now : Int) (addOk : Bool)
  | again
  | interrupted
  | failed
  deriving DecidableEq, Repr

/-- Everything the kernel reports while one event is dispatched. -/
structure EventScript where
  now : Int
  delOk : Bool
  modOk : Bool
  send : SendAnswer
  reads : List ReadAnswer
  accepts : List AcceptAnswer
  deriving Repr

/-! ## Section 2: Connection slots -/

/-- `alloc_connection` -/
def allocConnection (el : EventLoop n) : Option (Fin n × EventLoop n) :=
  match (List.finRange n).find? fun i => (el.connections i).type = .free with
  | some i => some (i, el.setConn i { Connection.zero with fd := -1 })
  | none => none

/-- `free_connection` -/
def freeConnection (conn : Connection) : Connection :=
  { conn with
    fd := -1
    type := .free
    state := .active
    sendLen := 0
    sendOffset := 0
    sendBuf := [] }

/-- `el_add_connection` -/
def elAddConnection (el : EventLoop n) (fd : Int) (type : ConnType) (events : Mask)
    (now : Int) (addOk : Bool) : Option (Fin n) × EventLoop n :=
  if fd < 0 then (none, el)
  else if (n : Int) ≤ el.activeCount then (none, el)
  else match allocConnection el with
    | none => (none, el)
    | some (i, el) =>
      let conn := { el.connections i with fd, type, state := .active, lastActive := now }
      match addFd el.kernel fd events addOk with
      -- the slot is given back, but `fd` stays open: it is the caller's to close
      | (false, kernel) => (none, { el.setConn i (freeConnection conn) with kernel })
      | (true, kernel) =>
        (some i, { el.setConn i conn with kernel, activeCount := el.activeCount + 1 })

/-- `el_remove_connection` -/
def elRemoveConnection (el : EventLoop n) (i : Fin n) (delOk : Bool) : EventLoop n :=
  let conn := el.connections i
  if conn.type = .free then el
  else
    let kernel :=
      if 0 ≤ conn.fd then closeFd (delFd el.kernel conn.fd delOk).2 conn.fd else el.kernel
    -- the count goes down once for a slot, since a free one returned above
    { el.setConn i (freeConnection conn) with kernel, activeCount := el.activeCount - 1 }

/-- `el_get_sip_fd` -/
def elGetSipFd (el : EventLoop n) : Int := el.sipListenFd

/-- `el_set_callbacks` -/
def elSetCallbacks (el : EventLoop n) (callbacks : Callbacks) : EventLoop n :=
  { el with callbacks }

/-! ## Section 3: Sending -/

/-- The result codes of `es_send_all`. -/
inductive EsSend where
  | sendDone
  | sendPartial
  | sendErr
  deriving DecidableEq, Repr

/-- `es_send_all`: the code, `*out_sent` and the kernel.  The first case leaves
    `*out_sent` alone in the source; both callers exclude it. -/
def esSendAll (kernel : Kernel) (fd : Int) (buf : List UInt8) (offset len : Int)
    (answer : SendAnswer) : EsSend × Int × Kernel :=
  if len ≤ 0 ∨ offset < 0 then (.sendErr, 0, kernel)
  else if kernel.isOpen fd = false then (.sendErr, 0, kernel)
  else match answer with
    | .again => (.sendPartial, 0, kernel)
    -- `EINTR` is not retried here: the caller waits for `EPOLLOUT`
    | .interrupted => (.sendPartial, 0, kernel)
    | .failed => (.sendErr, 0, kernel)
    | .accepted count =>
      let data := ((buf.drop offset.toNat).take len.toNat).take count
      (if len ≤ count then .sendDone else .sendPartial, count, kernel.record (.sent fd data))

/-- `EL_SEND_BUF_SIZE` -/
def elSendBufSize : Nat := 65536

/-- `EL_SEND_OK`, `EL_SEND_ERR_FULL` and `EL_SEND_ERR_PARAM`. -/
inductive ElSend where
  | sendOk
  | errFull
  | errParam
  deriving DecidableEq, Repr

/-- `el_send_data` -/
def elSendData (el : EventLoop n) (i : Fin n) (data : List UInt8) (answer : SendAnswer)
    (modOk : Bool) : ElSend × EventLoop n :=
  if data.length = 0 then (.errParam, el)
  else if elSendBufSize < data.length then (.errFull, el)
  else
    let conn := el.connections i
    -- whatever was still pending is replaced
    let conn := { conn with
      sendBuf := data ++ conn.sendBuf.drop data.length
      sendLen := data.length
      sendOffset := 0 }
    let cleared := fun (c : Connection) => { c with sendLen := 0, sendOffset := 0 }
    match esSendAll el.kernel conn.fd conn.sendBuf 0 conn.sendLen answer with
    | (.sendDone, _, kernel) => (.sendOk, { el.setConn i (cleared conn) with kernel })
    | (.sendPartial, sent, kernel) =>
      match modFd kernel conn.fd (regEvents conn.type ||| EPOLLOUT) modOk with
      -- the rest goes out from `default_on_write`
      | (true, kernel) => (.sendOk, { el.setConn i { conn with sendOffset := sent } with kernel })
      | (false, kernel) => (.errParam, { el.setConn i (cleared conn) with kernel })
    | (.sendErr, _, kernel) => (.errParam, { el.setConn i (cleared conn) with kernel })

/-! ## Section 4: Callbacks -/

/-- `default_on_close` -/
def defaultOnClose (el : EventLoop n) (i : Fin n) (delOk : Bool) : EventLoop n :=
  elRemoveConnection el i delOk

/-- `if (el->callbacks.on_close) el->callbacks.on_close(el, conn)` -/
def callOnClose (el : EventLoop n) (i : Fin n) (delOk : Bool) : EventLoop n :=
  if el.callbacks.onClose then defaultOnClose el i delOk else el

/-- `default_on_error` -/
def defaultOnError (el : EventLoop n) (i : Fin n) (delOk : Bool) : EventLoop n :=
  let el := el.setConn i { el.connections i with state := .error }
  let el := callOnClose el i delOk
  -- nothing is left to do if `on_close` has removed the connection
  elRemoveConnection el i delOk

/-- `if (el->callbacks.on_error) el->callbacks.on_error(el, conn, …)` -/
def callOnError (el : EventLoop n) (i : Fin n) (delOk : Bool) : EventLoop n :=
  if el.callbacks.onError then defaultOnError el i delOk else el

/-- `default_on_accept` -/
def defaultOnAccept (el : EventLoop n) (clientFd now : Int) (addOk : Bool) : EventLoop n :=
  match elAddConnection el clientFd .tcpClient defaultTcpEvents now addOk with
  -- nobody else knows the descriptor
  | (none, el) => { el with kernel := closeFd el.kernel clientFd }
  | (some _, el) => el

/-- `default_on_write` -/
def defaultOnWrite (el : EventLoop n) (i : Fin n) (s : EventScript) : EventLoop n :=
  let conn := el.connections i
  if conn.sendLen ≤ 0 ∨ conn.sendLen ≤ conn.sendOffset then
    let (_, kernel) := modFd el.kernel conn.fd (regEvents conn.type) s.modOk
    { el.setConn i { conn with sendLen := 0, sendOffset := 0 } with kernel }
  else
    let remaining := conn.sendLen - conn.sendOffset
    match esSendAll el.kernel conn.fd conn.sendBuf conn.sendOffset remaining s.send with
    | (.sendErr, _, kernel) =>
      let el := { el.setConn i { conn with sendLen := 0, sendOffset := 0 } with kernel }
      callOnError el i s.delOk
    | (_, sent, kernel) =>
      let conn := { conn with sendOffset := conn.sendOffset + sent }
      -- all of it is sent, so `EPOLLOUT` is taken back
      if conn.sendLen ≤ conn.sendOffset then
        let (_, kernel) := modFd kernel conn.fd (regEvents conn.type) s.modOk
        { el.setConn i { conn with sendLen := 0, sendOffset := 0 } with kernel }
      else { el.setConn i conn with kernel }

/-- The reads from a datagram socket in `el_default_on_read`. -/
def readDatagrams (kernel : Kernel) (fd : Int) : List ReadAnswer → Kernel
  | [] => kernel
  | .again :: _ => kernel
  | .interrupted :: rest => readDatagrams kernel fd rest
  -- the connection stays: only the read is given up
  | .failed :: _ => kernel
  | .bytes data _ :: rest => readDatagrams (kernel.record (.received fd data)) fd rest

/-- The reads from a stream socket in `el_default_on_read`; no bytes is the
    end of the stream. -/
def readStream (el : EventLoop n) (i : Fin n) (delOk : Bool) : List ReadAnswer → EventLoop n
  | [] => el
  | .again :: _ => el
  | .interrupted :: rest => readStream el i delOk rest
  | .failed :: _ => callOnError el i delOk
  | .bytes [] _ :: _ => callOnClose el i delOk
  | .bytes data _ :: rest =>
    readStream { el with kernel := el.kernel.record (.received (el.connections i).fd data) } i
      delOk rest

/-- A read from a descriptor that is not open fails. -/
def readsFrom (kernel : Kernel) (fd : Int) (answers : List ReadAnswer) : List ReadAnswer :=
  if kernel.isOpen fd then answers else [.failed]

/-- `el_default_on_read` -/
def elDefaultOnRead (el : EventLoop n) (i : Fin n) (s : EventScript) : EventLoop n :=
  let conn := el.connections i
  let answers := readsFrom el.kernel conn.fd s.reads
  if isUdp conn.type then { el with kernel := readDatagrams el.kernel conn.fd answers }
  else readStream el i s.delOk answers

/-- The messages sent by `sip_send_response` for one datagram. -/
def sendReplies (kernel : Kernel) (fd : Int) : List SipReply → Kernel
  | [] => kernel
  | reply :: rest =>
    let (_, _, kernel) := esSendAll kernel fd reply.data 0 reply.data.length reply.answer
    sendReplies kernel fd rest

/-- The receive loop of `sip_handler_on_read`. -/
def readSip (kernel : Kernel) (fd : Int) : List ReadAnswer → Kernel
  | [] => kernel
  | .again :: _ => kernel
  | .interrupted :: rest => readSip kernel fd rest
  | .failed :: _ => kernel
  -- an empty datagram is not parsed
  | .bytes [] _ :: rest => readSip kernel fd rest
  | .bytes data replies :: rest =>
    readSip (sendReplies (kernel.record (.received fd data)) fd replies) fd rest

/-- `sip_handler_on_read` -/
def sipHandlerOnRead (el : EventLoop n) (i : Fin n) (s : EventScript) : EventLoop n :=
  let conn := el.connections i
  if conn.type ≠ .udpSip then elDefaultOnRead el i s
  else { el with kernel := readSip el.kernel conn.fd (readsFrom el.kernel conn.fd s.reads) }

/-! ## Section 5: Dispatch -/

/-- `handle_accept` -/
def handleAccept (el : EventLoop n) (listenFd : Int) : List AcceptAnswer → EventLoop n
  | [] => el
  | .again :: _ => el
  | .interrupted :: rest => handleAccept el listenFd rest
  | .failed :: _ => el
  | .accepted fd nonblockOk now addOk :: rest =>
    match openFd el.kernel fd with
    | (false, _) => el
    | (true, kernel) =>
      let el := { el with kernel }
      if (n : Int) ≤ el.activeCount then
        handleAccept { el with kernel := closeFd el.kernel fd } listenFd rest
      else if nonblockOk = false then
        handleAccept { el with kernel := closeFd el.kernel fd } listenFd rest
      else if el.callbacks.onAccept then
        handleAccept (defaultOnAccept el fd now addOk) listenFd rest
      -- without `on_accept` the new descriptor stays open and unknown
      else handleAccept el listenFd rest

/-- `el->callbacks.on_read(el, conn)` -/
def callOnRead (el : EventLoop n) (i : Fin n) (s : EventScript) : EventLoop n :=
  match el.callbacks.onRead with
  | none => el
  | some .elDefaultOnRead => elDefaultOnRead el i s
  | some .sipHandlerOnRead => sipHandlerOnRead el i s

/-- `handle_client_event` -/
def handleClientEvent (el : EventLoop n) (i : Fin n) (events : Mask) (s : EventScript) :
    EventLoop n :=
  if (el.connections i).state ≠ .active then el
  else
    let el := el.setConn i { el.connections i with lastActive := s.now }
    -- an error or a hang-up is ignored when its callback is NULL
    if has events (EPOLLERR ||| EPOLLHUP) ∧ el.callbacks.onError then defaultOnError el i s.delOk
    else if has events EPOLLRDHUP ∧ el.callbacks.onClose then defaultOnClose el i s.delOk
    else
      let el := if has events EPOLLOUT ∧ el.callbacks.onWrite then defaultOnWrite el i s else el
      if has events EPOLLIN then callOnRead el i s else el

/-- The body of the event loop in `el_run` for one event of slot `i`. -/
def dispatchEvent (el : EventLoop n) (i : Fin n) (events : Mask) (s : EventScript) :
    EventLoop n :=
  let conn := el.connections i
  if conn.state = .closing ∨ conn.state = .error then el
  else if conn.type = .tcpListen then
    if has events EPOLLIN then handleAccept el conn.fd s.accepts else el
  else handleClientEvent el i events s

/-! ## Section 6: The idle sweep and the loop -/

/-- `(int)(now - last_active)` -/
def idleSec (now : Int) (conn : Connection) : Int := (now - conn.lastActive).bmod (2 ^ 32)

/-- The sweep at one slot. -/
def sweepSlot (now : Int) (delOk : Fin n → Bool) (el : EventLoop n) (i : Fin n) : EventLoop n :=
  let conn := el.connections i
  if conn.type = .free then el
  else if conn.type = .tcpListen then el
  else if conn.state ≠ .active then el
  -- the SIP socket is swept like any other connection
  else if el.config.idleTimeoutSec ≤ idleSec now conn then
    -- where `on_close` has run the slot is free by now
    elRemoveConnection (callOnClose el i (delOk i)) i (delOk i)
  else el

/-- `cleanup_idle_connections` -/
def cleanupIdleConnections (el : EventLoop n) (now : Int) (delOk : Fin n → Bool) : EventLoop n :=
  (List.finRange n).foldl (sweepSlot now delOk) el

/-- The idle check is due. -/
def idleCheckDue (el : EventLoop n) (now : Int) : Prop :=
  idleCheckIntervalSec ≤ now - el.lastIdleCheck

instance (el : EventLoop n) (now : Int) : Decidable (idleCheckDue el now) :=
  inferInstanceAs (Decidable (_ ≤ _))

/-- The idle check at the end of an iteration of `el_run`.  The sweep reads
    the clock again. -/
def idleCheck (el : EventLoop n) (now sweepNow : Int) (delOk : Fin n → Bool) : EventLoop n :=
  if idleCheckDue el now then
    { cleanupIdleConnections el sweepNow delOk with lastIdleCheck := now }
  else el

/-- What `epoll_wait` returns.  An event whose `data.ptr` is NULL is `none`. -/
inductive WaitResult (n : Nat) where
  | ready (events : List (Option (Fin n) × Mask × EventScript))
  | interrupted
  | failed

/-- One iteration of `el_run`. -/
structure Iteration (n : Nat) where
  wait : WaitResult n
  now : Int
  sweepNow : Int
  delOk : Fin n → Bool

def dispatchReady (el : EventLoop n) (event : Option (Fin n) × Mask × EventScript) :
    EventLoop n :=
  match event with
  | (none, _) => el
  | (some i, events, s) => dispatchEvent el i events s

/-- `el_run`, until `epoll_wait` fails or `el_stop` ends the list. -/
def elRun (el : EventLoop n) : List (Iteration n) → EventLoop n
  | [] => el
  | it :: rest =>
    match it.wait with
    | .failed => el
    | .interrupted => elRun el rest
    | .ready events =>
      elRun (idleCheck (events.foldl dispatchReady el) it.now it.sweepNow it.delOk) rest

/-! ### The loop as a sequence of steps -/

/-- One step of the loop: an event is dispatched, or an iteration ends. -/
inductive LoopOp (n : Nat) where
  | event (i : Fin n) (events : Mask) (s : EventScript)
  | idleCheck (now sweepNow : Int) (delOk : Fin n → Bool)

def loopStep (el : EventLoop n) : LoopOp n → EventLoop n
  | .event i events s => dispatchEvent el i events s
  | .idleCheck now sweepNow delOk => idleCheck el now sweepNow delOk

def eventOps : List (Option (Fin n) × Mask × EventScript) → List (LoopOp n)
  | [] => []
  | (none, _) :: rest => eventOps rest
  | (some i, events, s) :: rest => .event i events s :: eventOps rest

/-- The steps that a call of `el_run` makes. -/
def runOps : List (Iteration n) → List (LoopOp n)
  | [] => []
  | it :: rest =>
    match it.wait with
    | .failed => []
    | .interrupted => runOps rest
    | .ready events =>
      eventOps events ++ .idleCheck it.now it.sweepNow it.delOk :: runOps rest

theorem foldl_eventOps (el : EventLoop n) (events : List (Option (Fin n) × Mask × EventScript)) :
    (eventOps events).foldl loopStep el = events.foldl dispatchReady el := by
  induction events generalizing el with
  | nil => rfl
  | cons event rest ih =>
    obtain ⟨slot, mask, s⟩ := event
    cases slot with
    -- a NULL pointer is skipped
    | none => exact ih el
    | some i => exact ih _

/-- `el_run` is the sequence of its steps. -/
theorem elRun_eq_foldl (el : EventLoop n) (its : List (Iteration n)) :
    elRun el its = (runOps its).foldl loopStep el := by
  induction its generalizing el with
  | nil => rfl
  | cons it rest ih =>
    cases hwait : it.wait with
    | failed => simp [elRun, runOps, hwait]
    | interrupted => simp [elRun, runOps, hwait, ih]
    | ready events =>
      simp only [elRun, runOps, hwait, List.foldl_append, List.foldl_cons, foldl_eventOps]
      exact ih _

/-! ## Section 7: Creation and destruction -/

/-- The defaults that `el_create` puts in for values that are not positive. -/
def ServerConfig.normalize (config : ServerConfig) : ServerConfig :=
  { config with
    maxConnections :=
      if config.maxConnections ≤ 0 then maxConcurrentCalls else config.maxConnections
    idleTimeoutSec :=
      if config.idleTimeoutSec ≤ 0 then connectionIdleTimeoutSec else config.idleTimeoutSec
    epollTimeoutMs :=
      if config.epollTimeoutMs ≤ 0 then epollWaitTimeoutMs else config.epollTimeoutMs
    epollMaxEvents :=
      if config.epollMaxEvents ≤ 0 then maxEpollEvents else config.epollMaxEvents
    tcpBacklog := if config.tcpBacklog ≤ 0 then serverTcpBacklog else config.tcpBacklog }

/-- `conn_capacity` -/
def ServerConfig.capacity (config : ServerConfig) : Nat := config.normalize.maxConnections.toNat

/-- What the kernel reports to `el_create`: `epoll_create1` and `calloc`, the
    descriptor of the SIP socket and whether its set-up works, the
    registration, and two clock readings. -/
structure CreateScript where
  createOk : Bool
  socketFd : Option Int
  setupOk : Bool
  addOk : Bool
  addTime : Int
  startTime : Int

/-- `es_create_udp_server` -/
def esCreateUdpServer (kernel : Kernel) (s : CreateScript) : Option Int × Kernel :=
  match s.socketFd with
  | none => (none, kernel)
  | some fd =>
    match openFd kernel fd with
    | (false, kernel) => (none, kernel)
    | (true, kernel) => if s.setupOk then (some fd, kernel) else (none, closeFd kernel fd)

/-- The part of `el_create` that opens and registers the SIP socket. -/
def createSipSocket (el : EventLoop n) (s : CreateScript) : EventLoop n :=
  match esCreateUdpServer el.kernel s with
  -- `el_create` goes on without a SIP socket
  | (none, kernel) => { el with kernel }
  | (some fd, kernel) =>
    match elAddConnection { el with kernel } fd .udpSip defaultUdpEvents s.addTime s.addOk with
    | (none, el) => { el with kernel := closeFd el.kernel fd }
    | (some _, el) => { el with sipListenFd := fd }

/-- `el_create` up to the SIP socket, in a process that has the descriptors
    `openFds` open. -/
def emptyLoop (openFds : Nat → Bool) (config : ServerConfig) : EventLoop config.capacity where
  config := config.normalize
  callbacks := defaultCallbacks
  connections := fun _ => { Connection.zero with fd := -1 }
  activeCount := 0
  sipListenFd := 0
  lastIdleCheck := 0
  kernel := boot openFds

/-- `el_create` -/
def elCreate (openFds : Nat → Bool) (config : ServerConfig) (s : CreateScript) :
    Option (EventLoop config.capacity) :=
  if s.createOk = false then none
  else
    let el := emptyLoop openFds config
    let el := if 0 < config.sipPort then createSipSocket el s else el
    some { el with lastIdleCheck := s.startTime }

/-- The end of one slot in `el_destroy`. -/
def destroySlot (delOk : Fin n → Bool) (el : EventLoop n) (i : Fin n) : EventLoop n :=
  if (el.connections i).type = .free then el
  else
    let el := callOnClose el i (delOk i)
    -- read again: after `on_close` the descriptor is -1
    let conn := el.connections i
    let kernel :=
      if 0 ≤ conn.fd then closeFd (delFd el.kernel conn.fd (delOk i)).2 conn.fd else el.kernel
    { el.setConn i (freeConnection conn) with kernel }

/-- `el_destroy`, up to the release of the memory. -/
def elDestroy (el : EventLoop n) (delOk : Fin n → Bool) : EventLoop n :=
  (List.finRange n).foldl (destroySlot delOk) el

/-! ## Section 8: The server -/

/-- The configuration of `start_server_mode`. -/
def startServerConfig : ServerConfig where
  sipPort := 5060
  tcpBacklog := serverTcpBacklog
  maxConnections := maxConcurrentCalls
  idleTimeoutSec := connectionIdleTimeoutSec
  epollTimeoutMs := epollWaitTimeoutMs
  epollMaxEvents := maxEpollEvents

/-- The callbacks of `start_server_mode`: all NULL but `on_read`. -/
def sipCallbacks : Callbacks where
  onAccept := false
  onRead := some .sipHandlerOnRead
  onWrite := false
  onError := false
  onClose := false

/-- `start_server_mode` up to `el_run`. -/
def startServerMode (openFds : Nat → Bool) (s : CreateScript) :
    Option (EventLoop startServerConfig.capacity) :=
  (elCreate openFds startServerConfig s).map fun el => elSetCallbacks el sipCallbacks

end EpollServer
