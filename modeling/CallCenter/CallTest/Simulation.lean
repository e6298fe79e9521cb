import CallCenter.DbSync.CallSession
import CallCenter.Route.Retransmission
import CallCenter.Route.Shipped

/-! # The Call Test

    `call_test.c` routes fifty calls through the script and counts how they
    end.  It switches the script to working hours first, and every agent is
    idle, so none of its calls is a night call, waits in a queue or is asked
    to leave a message, whatever its table says: `call_test_report` gives the
    counts for any table of calls, and for that of the program.

    `call_test_records` is about what it writes: one start and one end for
    each call, under ids that are different. -/

namespace CallTest

open CFormat Lua Script LuaUtils DbSync Route Transition

/-! ## Section 1: The test -/

/-- `call_test_case_t` -/
structure TestCase where
  callNo : Nat
  scenario : CStr
  caller : CStr
  digits : CStr
  expected : CStr
  direction : CStr
  deriving DecidableEq, Repr

/-- What the clock shows during a call: the text of `strftime` and the seconds
    that the routing takes. -/
structure CallTimes where
  stamp : CStr
  elapsed : Int

/-- What is handed to `db_sync_call_start` and `db_sync_call_end`. -/
structure CallRecord where
  callId : CStr
  caller : CStr
  callee : CStr
  direction : CStr
  department : CStr
  duration : Int
  sipStatus : Int32
  resultCode : Int32
  resultDesc : CStr
  deriving DecidableEq, Repr

/-- `%03d` -/
def threeDigits (n : Nat) : CStr := (natText n).leftpad 3 48

/-- `"TEST-%s-%03d@call-center.local"` in 256 bytes -/
def testCallId (tc : TestCase) (stamp : CStr) : CStr :=
  snprintf 256 (cstr "TEST-" ++ stamp ++ cstr "-" ++ threeDigits tc.callNo ++
    cstr "@call-center.local")

/-- `callee_display` -/
def calleeDisplay (digits : CStr) : CStr :=
  if digits = [] then cstr "(timeout)" else snprintf 32 (cstr "IVR:" ++ digits)

/-- The duration of a call: from one to five seconds. -/
def callDuration (elapsed : Int) : Int :=
  if elapsed < 1 then 1 else if 5 < elapsed then 5 else elapsed

variable (p : Platform)

/-- `lua_vm_call_route` for a case. -/
def routeCase (tc : TestCase) (s : RouteState) : Int32 × RouteResponse × RouteState :=
  luaVmCallRoute (some (routeFunction p)) (some tc.caller) tc.digits s

/-- `run_single_call`, without what it prints: the return value, the record
    and the state of the script. -/
def runSingleCall (tc : TestCase) (times : CallTimes) (s : RouteState) :
    Int32 × CallRecord × RouteState :=
  let routed := routeCase p tc s
  let r := routed.2.1
  (routed.1,
    { callId := testCallId tc times.stamp
      caller := tc.caller
      callee := calleeDisplay tc.digits
      direction := tc.direction
      -- the scenario stands where the department belongs
      department := tc.scenario
      duration := callDuration times.elapsed
      sipStatus := if r.code = 0 then 200 else 486
      resultCode := r.code
      resultDesc := r.description },
    routed.2.2)

structure Tally where
  success : Nat
  fail : Nat
  night : Nat
  voicemail : Nat
  queue : Nat
  invalid : Nat
  deriving DecidableEq, Repr

/-- A call is counted by the return value of the first routing and by the code
    of the second one. -/
def Tally.count (t : Tally) (ret code : Int32) : Tally where
  success := t.success + if ret = 0 then 1 else 0
  fail := t.fail + if ret = 0 then 0 else 1
  night := t.night + if code = 6 then 1 else 0
  voicemail := t.voicemail + if code = 7 then 1 else 0
  queue := t.queue + if code = 5 then 1 else 0
  invalid := t.invalid + if code = 1 then 1 else 0

structure TestReport where
  tally : Tally
  records : List CallRecord

/-- The loop of `call_test_run`. -/
def callLoop : List (TestCase × CallTimes) → TestReport → RouteState → TestReport × RouteState
  | [], report, s => (report, s)
  | (tc, times) :: rest, report, s =>
    let single := runSingleCall p tc times s
    -- the call is routed again to be classified
    let again := routeCase p tc single.2.2
    callLoop rest
      ⟨report.tally.count single.1 again.2.1.code, report.records ++ [single.2.1]⟩ again.2.2

def forceWorktime (on : Bool) (s : RouteState) : RouteState :=
  s.withTables { s.tables with forceWorktime := on }

/-- `call_test_run` -/
def callTestRun (runs : List (TestCase × CallTimes)) (s : RouteState) : TestReport × RouteState :=
  let done := callLoop p runs ⟨⟨0, 0, 0, 0, 0, 0⟩, []⟩ (forceWorktime true s)
  (done.1, forceWorktime false done.2)

/-! ### The table -/

/-- A call from outside. -/
def inbound (callNo : Nat) (scenario caller digits expected : String) : TestCase :=
  ⟨callNo, cstr scenario, cstr caller, cstr digits, cstr expected, cstr "inbound"⟩

/-- A call between extensions. -/
def internal (callNo : Nat) (scenario caller digits expected : String) : TestCase :=
  ⟨callNo, cstr scenario, cstr caller, cstr digits, cstr expected, cstr "internal"⟩

/-- `test_cases` -/
def testCases : List TestCase :=
  [inbound 1 "IVR按键[1]→销售部" "4001234567" "1" "SUCCESS",
    inbound 2 "IVR按键[1]→销售部" "4002222222" "1" "SUCCESS",
    inbound 3 "IVR按键[1]→销售部" "4003333333" "1" "SUCCESS",
    inbound 4 "IVR按键[1]→销售部" "4004444444" "1" "SUCCESS",
    inbound 5 "IVR按键[1]→销售部" "4005555555" "1" "SUCCESS",
    inbound 6 "IVR按键[2]→售后部" "4006666666" "2" "SUCCESS",
    inbound 7 "IVR按键[2]→售后部" "4007777777" "2" "SUCCESS",
    inbound 8 "IVR按键[2]→售后部" "4008888888" "2" "SUCCESS",
    inbound 9 "IVR按键[2]→售后部" "4009999999" "2" "SUCCESS",
    inbound 10 "IVR按键[2]→售后部" "4000000001" "2" "SUCCESS",
    inbound 11 "IVR按键[3]→市场部" "4001111112" "3" "SUCCESS",
    inbound 12 "IVR按键[3]→市场部" "4001111113" "3" "SUCCESS",
    inbound 13 "IVR按键[3]→市场部" "4001111114" "3" "SUCCESS",
    inbound 14 "IVR按键[0]→人工台" "4001111115" "0" "SUCCESS",
    inbound 15 "IVR按键[0]→人工台" "4001111116" "0" "SUCCESS",
    inbound 16 "IVR按键[0]→人工台" "4001111117" "0" "SUCCESS",
    internal 17 "内部互呼→同部门销售" "2001" "2010" "SUCCESS",
    internal 18 "内部互呼→同部门售后" "2501" "2510" "SUCCESS",
    internal 19 "内部互呼→同部门研发" "3001" "3010" "SUCCESS",
    internal 20 "内部互呼→同部门人事" "1001" "1010" "SUCCESS",
    internal 21 "内部互呼→人事拨财务" "1001" "1101" "SUCCESS",
    internal 22 "内部互呼→销售拨研发" "2001" "3001" "SUCCESS",
    internal 23 "内部互呼→管理拨行政" "1301" "1201" "SUCCESS",
    internal 24 "内部互呼→研发拨售后" "3001" "2501" "SUCCESS",
    inbound 25 "夜间模式→值班坐席" "4001000001" "1" "NIGHT_MODE",
    inbound 26 "夜间模式→值班坐席" "4001000002" "2" "NIGHT_MODE",
    inbound 27 "夜间模式→值班坐席" "4001000003" "0" "NIGHT_MODE",
    inbound 28 "夜间模式→值班坐席" "4001000004" "3" "NIGHT_MODE",
    inbound 29 "夜间模式→值班坐席" "4001000005" "" "NIGHT_MODE",
    inbound 30 "超时+重试→转人工" "4002000001" "" "TIMEOUT_RETRY",
    inbound 31 "超时+重试→转人工" "4002000002" "" "TIMEOUT_RETRY",
    inbound 32 "超时+重试→转人工" "4002000003" "" "TIMEOUT_RETRY",
    inbound 33 "无效按键→重新引导" "4003000001" "5" "INVALID_KEY_RETRY",
    inbound 34 "无效按键→重新引导" "4003000002" "#" "INVALID_KEY_RETRY",
    inbound 35 "无效按键→重新引导" "4003000003" "*" "INVALID_KEY_RETRY",
    internal 36 "无效被叫分机" "1001" "9999" "INVALID_DIGITS",
    internal 37 "无效主叫分机" "9999" "2001" "INVALID_DIGITS",
    internal 38 "被叫格式错误" "1001" "abc" "INVALID_DIGITS",
    inbound 39 "未知主叫号码" "unknown" "9" "INVALID_DIGITS",
    inbound 40 "全忙溢出→销售→人工" "4008888888" "1" "FALLBACK_AGENT",
    inbound 41 "全忙溢出→售后→人工" "4008888889" "2" "FALLBACK_AGENT",
    inbound 42 "全忙溢出→市场→人工" "4007777777" "3" "FALLBACK_AGENT",
    inbound 43 "排队→销售部队列" "4004000001" "1" "QUEUED",
    inbound 44 "排队→售后部队列" "4004000002" "2" "QUEUED",
    inbound 45 "排队→人工台队列" "4004000003" "0" "QUEUED",
    inbound 46 "周末夜间→转留言" "4005000001" "1" "VOICEMAIL",
    inbound 47 "周末夜间→转留言" "4005000002" "2" "VOICEMAIL",
    inbound 48 "无值班→转留言" "4005000003" "0" "VOICEMAIL",
    internal 49 "内部分机拨人工台" "2001" "9002" "SUCCESS",
    inbound 50 "外线无按键自动兜底" "4009999998" "" "NIGHT_MODE"]

/-! ## Section 2: How a call ends -/

/-- The caller gets through: to the department of the key, or to an extension. -/
def TestCase.reaches (tc : TestCase) : Bool :=
  if isExternalCaller (some tc.caller) then (ivrMap tc.digits).isSome
  else (findDepartment tc.digits).isSome

/-- An extension calls a number that is none. -/
def TestCase.refused (tc : TestCase) : Bool :=
  !isExternalCaller (some tc.caller) && !(findDepartment tc.digits).isSome

/-- The script in service, switched to working hours. -/
structure Forced (t : RouteTables) : Prop where
  service : InService t
  force : t.forceWorktime = true

/-- The code of a result: that of the case, or one that is not counted. -/
def CodeOf (tc : TestCase) (code : Option Int) : Prop :=
  if tc.reaches then code = some 0
  else if tc.refused then code = some 1
  else code ∈ [none, some 4, some 8, some 9]

variable {p} {s : RouteState} {t t' : RouteTables} {now : Int} {r : Except LuaError Answer}

theorem follows_forceWorktime {callerId : Option CStr} {d : Decision}
    (h : Follows p t now callerId d r t') : t'.forceWorktime = t.forceWorktime := by
  cases d with
  | clockError | nightAgent | nightFallback | nightVoicemail =>
    exact congrArg RouteTables.forceWorktime h.2
  | timeoutRetry | timeoutEscalation | keyRetry | keyEscalation | offline | agentOf | overflowTo =>
    rw [h.2]
    rfl
  | queued =>
    obtain ⟨-, arrival, -, rfl⟩ := h
    rfl
  | queueFull =>
    rw [h.2]
    unfold RouteTables.openQueue
    split <;> rfl

theorem answersWith_code {v : LuaNumber} {code : Int} {target : CStr}
    (h : AnswersWith v r code target) : resultCode r ∈ [none, some code] := by
  unfold AnswersWith at h
  split at h
  · rw [h.resultCode]
    simp
  · rw [h]
    exact List.mem_cons_self

/-- A call from outside in working hours. -/
theorem ivrDecision_code (h : InService t) {callerId : Option CStr} {digits : CStr}
    (hfollows : Follows p t now callerId (ivrDecision t now callerId (some digits)) r t') :
    if (ivrMap digits).isSome then resultCode r = some 0
    else resultCode r ∈ [none, some 4, some 8, some 9] := by
  unfold ivrDecision at hfollows
  rw [Option.getD_some] at hfollows
  have hwithin : ∀ code ∈ [(8 : Int), 9], resultCode r ∈ [none, some code] →
      resultCode r ∈ [none, some 4, some 8, some 9] := by
    intro code hcode hr
    simp only [List.mem_cons, List.not_mem_nil, or_false] at hcode hr ⊢
    rcases hr with hr | hr
    · exact Or.inl hr
    · rcases hcode with rfl | rfl
      · exact Or.inr (Or.inr (Or.inl hr))
      · exact Or.inr (Or.inr (Or.inr hr))
  cases hmap : ivrMap digits with
  | none =>
    rw [if_neg (by decide)]
    by_cases hempty : digits = []
    · rw [if_pos hempty] at hfollows
      split at hfollows
      · rw [hfollows.1.resultCode]
        decide
      · exact hwithin 8 (by decide) (answersWith_code hfollows.1)
    · rw [if_neg hempty, hmap] at hfollows
      dsimp only at hfollows
      split at hfollows
      · rw [hfollows.1.resultCode]
        decide
      · exact hwithin 9 (by decide) (answersWith_code hfollows.1)
  | some deptKey =>
    have hempty : digits ≠ [] := by
      have hnone : ivrMap [] = none := by decide
      rintro rfl
      rw [hnone] at hmap
      cases hmap
    obtain ⟨dept, hdept, -⟩ := ivrMap_department hmap
    have hsome : (department deptKey).isSome := by rw [hdept]; rfl
    rw [if_neg hempty, hmap] at hfollows
    dsimp only at hfollows
    rw [if_neg (h.online hsome), if_neg (h.countIdle hsome).ne'] at hfollows
    obtain ⟨⟨agent, -, hanswer⟩, -⟩ := hfollows
    rw [if_pos (by rfl)]
    exact hanswer.resultCode

/-- A call between extensions. -/
theorem internal_code (h : InService s.tables) {caller : CStr} (callee : CStr)
    (hcaller : (findDepartment caller).isSome) :
    resultCode (outcome (deptInternalCallRoute p (some caller) (some callee)) s).1 =
      if (findDepartment callee).isSome then some 0 else some 1 := by
  obtain ⟨callerDept, hcaller⟩ := Option.isSome_iff_exists.mp hcaller
  cases hcallee : findDepartment callee with
  | none =>
    obtain ⟨a, s', hrun, hcode⟩ := deptInternalCallRoute_refused p s (Or.inr hcallee)
    rw [hrun]
    exact congrArg some hcode
  | some calleeDept =>
    obtain ⟨a, s', hrun, -, hcode⟩ := deptInternalCallRoute_found p s hcaller hcallee
    rw [hrun]
    have hzero : a.code = 0 := by
      apply hcode.mpr
      cases hagent : s.tables.agents.lookup callee with
      | none => exact ⟨nofun, nofun⟩
      | some agent => simp [h.idle callee agent hagent]
    exact congrArg some hzero

/-- **A call** of the test. -/
theorem routeCall_code (h : Forced s.tables) (tc : TestCase) :
    Runs (routeCall p (some tc.caller) (some tc.digits)) s fun r s' =>
      CodeOf tc (resultCode r) ∧ Forced s'.tables := by
  have hserves := routeCall_serves (p := p) h.service (some tc.caller) (some tc.digits)
  have hservice := h.service.of_undisturbed hserves.2
  unfold CodeOf TestCase.reaches TestCase.refused
  by_cases hexternal : isExternalCaller (some tc.caller) = true
  · obtain ⟨now, -, hfollows⟩ := routeCall_follows (p := p) hexternal (some tc.digits) s
    have hwork : workTimeAt s.tables (p.date (p.clock s.reads)) = .ok true := if_pos h.force
    rw [callDecision, hwork] at hfollows
    refine ⟨?_, hservice, (follows_forceWorktime hfollows).trans h.force⟩
    have hcode := ivrDecision_code h.service hfollows
    simpa [hexternal] using hcode
  · have hinternal : isExternalCaller (some tc.caller) = false := by simpa using hexternal
    have hcaller := (isExternalCaller_eq_false.mp hinternal).2
    have hroute : routeCall p (some tc.caller) (some tc.digits) =
        deptInternalCallRoute p (some tc.caller) (some tc.digits) := if_neg hexternal
    unfold Runs
    rw [hroute]
    refine ⟨?_, ?_, ?_⟩
    · rw [internal_code h.service tc.digits hcaller]
      cases findDepartment tc.digits <;> simp [hinternal]
    · rw [hroute] at hservice
      exact hservice
    · rw [(deptInternalCallRoute_observes p _ _ s).1]
      exact h.force

/-! ## Section 3: The counts -/

/-- The return value of `lua_vm_call_route`. -/
def returned (code : Option Int) : Int32 := code.elim (-1) Int32.ofInt

/-- The code in the response. -/
def responded (code : Option Int) : Int32 :=
  code.elim (Int32.ofInt RouteResult.error.code) Int32.ofInt

theorem routeCase_spec (h : Forced s.tables) (tc : TestCase) :
    ∃ code, CodeOf tc code ∧ (routeCase p tc s).1 = returned code ∧
      (routeCase p tc s).2.1.code = responded code ∧ Forced (routeCase p tc s).2.2.tables := by
  obtain ⟨hcode, hforced⟩ := routeCall_code (p := p) h tc
  refine ⟨_, hcode, ?_⟩
  unfold routeCase luaVmCallRoute routeFunction
  simp only [Option.getD_some]
  cases hrun : outcome (routeCall p (some tc.caller) (some tc.digits)) s with
  | mk r s' =>
    rw [hrun] at hforced
    cases r with
    | ok a => exact ⟨rfl, rfl, hforced⟩
    | error e => exact ⟨rfl, rfl, hforced⟩

/-- What is counted for a case. -/
def Tally.add (t : Tally) (tc : TestCase) : Tally :=
  { t with
    success := t.success + if tc.reaches then 1 else 0
    fail := t.fail + if tc.reaches then 0 else 1
    invalid := t.invalid + if tc.refused then 1 else 0 }

theorem refused_of_reaches {tc : TestCase} (h : tc.reaches = true) : tc.refused = false := by
  unfold TestCase.reaches at h
  unfold TestCase.refused
  by_cases hexternal : isExternalCaller (some tc.caller) = true
  · simp [hexternal]
  · rw [if_neg hexternal] at h
    simp [h]

theorem count_code {tc : TestCase} {first second : Option Int} (hfirst : CodeOf tc first)
    (hsecond : CodeOf tc second) (t : Tally) :
    t.count (returned first) (responded second) = t.add tc := by
  unfold CodeOf at hfirst hsecond
  unfold Tally.add
  by_cases hreaches : tc.reaches = true
  · rw [if_pos hreaches] at hfirst hsecond
    rw [refused_of_reaches hreaches, hreaches, hfirst, hsecond]
    rfl
  · rw [if_neg hreaches] at hfirst hsecond
    by_cases hrefused : tc.refused = true
    · rw [if_pos hrefused] at hfirst hsecond
      simp only [hreaches, hrefused, hfirst, hsecond]
      rfl
    · rw [if_neg hrefused] at hfirst hsecond
      simp only [hreaches, hrefused]
      -- neither code is one that is counted
      simp only [List.mem_cons, List.not_mem_nil, or_false] at hfirst hsecond
      rcases hfirst with rfl | rfl | rfl | rfl <;> rcases hsecond with rfl | rfl | rfl | rfl <;> rfl

theorem callLoop_tally (runs : List (TestCase × CallTimes)) (report : TestReport)
    {s : RouteState} (h : Forced s.tables) :
    (callLoop p runs report s).1.tally = (runs.map Prod.fst).foldl Tally.add report.tally ∧
      Forced (callLoop p runs report s).2.tables := by
  induction runs generalizing report s with
  | nil => exact ⟨rfl, h⟩
  | cons run runs ih =>
    obtain ⟨tc, times⟩ := run
    obtain ⟨first, hfirst, hret, -, hforced⟩ := routeCase_spec (p := p) h tc
    obtain ⟨second, hsecond, -, hcode, hforced'⟩ := routeCase_spec (p := p) hforced tc
    obtain ⟨htally, hlast⟩ := ih
      ⟨report.tally.count (runSingleCall p tc times s).1
          (routeCase p tc (runSingleCall p tc times s).2.2).2.1.code,
        report.records ++ [(runSingleCall p tc times s).2.1]⟩ hforced'
    refine ⟨htally.trans ?_, hlast⟩
    have hcount : report.tally.count (runSingleCall p tc times s).1
        (routeCase p tc (runSingleCall p tc times s).2.2).2.1.code = report.tally.add tc := by
      rw [← count_code hfirst hsecond report.tally, ← hcode, ← hret]
      rfl
    dsimp only
    rw [hcount]
    rfl

theorem foldl_add (cases : List TestCase) (t : Tally) :
    cases.foldl Tally.add t =
      { t with
        success := t.success + cases.countP TestCase.reaches
        fail := t.fail + cases.countP fun tc => !tc.reaches
        invalid := t.invalid + cases.countP TestCase.refused } := by
  induction cases generalizing t with
  | nil => rfl
  | cons tc cases ih =>
    rw [List.foldl_cons, ih]
    unfold Tally.add
    simp only [List.countP_cons]
    congr 1
    · omega
    · cases tc.reaches <;> simp [Nat.add_assoc, Nat.add_comm]
    · omega

/-- **The report** of the test from any state of the script, on any day and at
    any time: the counts of night calls, voicemail and queues are zero, and
    the others are those of the table. -/
theorem call_test_report {reads : Nat} {calls : List ScriptCall}
    (hrun : Run (ofFun (scriptStep p)) (loadedState p reads) calls s)
    (runs : List (TestCase × CallTimes)) :
    (callTestRun p runs s).1.tally =
        ⟨(runs.map Prod.fst).countP TestCase.reaches,
          (runs.map Prod.fst).countP fun tc => !tc.reaches, 0, 0, 0,
          (runs.map Prod.fst).countP TestCase.refused⟩ ∧
      (runs.map Prod.fst = testCases →
        (callTestRun p runs s).1.tally = ⟨38, 12, 0, 0, 0, 2⟩) := by
  have hservice : InService (forceWorktime true s).tables :=
    (shipped_run hrun).of_undisturbed ⟨rfl, rfl⟩
  have htally : (callTestRun p runs s).1.tally =
      ⟨(runs.map Prod.fst).countP TestCase.reaches,
        (runs.map Prod.fst).countP fun tc => !tc.reaches, 0, 0, 0,
        (runs.map Prod.fst).countP TestCase.refused⟩ := by
    refine (callLoop_tally runs _ ⟨hservice, rfl⟩).1.trans ?_
    rw [foldl_add]
    simp
  refine ⟨htally, fun hcases => ?_⟩
  rw [htally, hcases]
  decide

/-- The test right after a load, on a Sunday night. -/
theorem call_test_report_sunday :
    (callTestRun sundayNight (testCases.map fun tc => (tc, ⟨cstr "20250105220000", 0⟩))
      (loadedState sundayNight 0)).1.tally = ⟨38, 12, 0, 0, 0, 2⟩ := by
  apply (call_test_report (Run.nil _) _).2
  rw [List.map_map]
  exact List.map_id _

/-! ## Section 4: The records -/

theorem digitsValue_threeDigits (n : Nat) : digitsValue (threeDigits n) = n := by
  have hzeros : ∀ k, digitsValue (List.replicate k 48 ++ natText n) = digitsValue (natText n) := by
    intro k
    induction k with
    | zero => rfl
    | succ k ih => exact ih
  unfold threeDigits List.leftpad
  rw [hzeros, digitsValue_natText]

theorem length_threeDigits {n : Nat} (h : n < 1000) : (threeDigits n).length = 3 := by
  have hdigits : (natText n).length ≤ 3 := length_natText_le (by omega) (by omega)
  unfold threeDigits
  rw [List.length_leftpad]
  omega

section Ids

variable {tc tc' : TestCase} {stamp stamp' : CStr}

theorem length_testId (hnumber : tc.callNo < 1000) (hstamp : stamp.length = 14) :
    (cstr "TEST-" ++ stamp ++ cstr "-" ++ threeDigits tc.callNo ++
      cstr "@call-center.local").length = 41 := by
  have htest : (cstr "TEST-").length = 5 := by decide
  have hdash : (cstr "-").length = 1 := by decide
  have hhost : (cstr "@call-center.local").length = 18 := by decide
  have hthree := length_threeDigits hnumber
  simp only [List.length_append, htest, hdash, hhost, hthree, hstamp]

/-- The id is cut neither where it is printed nor in the key of the session. -/
theorem testCallId_take (hnumber : tc.callNo < 1000) (hstamp : stamp.length = 14) :
    (testCallId tc stamp).take 242 = cstr "TEST-" ++ stamp ++ cstr "-" ++ threeDigits tc.callNo ++
      cstr "@call-center.local" := by
  have hlength := length_testId hnumber hstamp
  unfold testCallId snprintf
  rw [List.take_take]
  exact List.take_of_length_le (by omega)

theorem testCallId_inj (hnumber : tc.callNo < 1000) (hnumber' : tc'.callNo < 1000)
    (hstamp : stamp.length = 14) (hstamp' : stamp'.length = 14)
    (h : (testCallId tc stamp).take 242 = (testCallId tc' stamp').take 242) :
    tc.callNo = tc'.callNo := by
  rw [testCallId_take hnumber hstamp, testCallId_take hnumber' hstamp'] at h
  have hfront := List.append_cancel_right h
  have hlength : (cstr "TEST-" ++ stamp ++ cstr "-").length =
      (cstr "TEST-" ++ stamp' ++ cstr "-").length := by
    simp only [List.length_append, hstamp, hstamp']
  have hthree := (List.append_inj hfront hlength).2
  rw [← digitsValue_threeDigits tc.callNo, hthree, digitsValue_threeDigits]

end Ids

/-- What a record of a case is like. -/
structure RecordOf (run : TestCase × CallTimes) (r : CallRecord) : Prop where
  callId : r.callId = testCallId run.1 run.2.stamp
  duration : 1 ≤ r.duration ∧ r.duration ≤ 5
  status : r.sipStatus = 200 ↔ r.resultCode = 0

theorem runSingleCall_record (p : Platform) (tc : TestCase) (times : CallTimes) (s : RouteState) :
    RecordOf (tc, times) (runSingleCall p tc times s).2.1 := by
  refine ⟨rfl, ?_, ?_⟩
  · show 1 ≤ callDuration times.elapsed ∧ callDuration times.elapsed ≤ 5
    unfold callDuration
    split
    · omega
    · split <;> omega
  · show (if (routeCase p tc s).2.1.code = 0 then (200 : Int32) else 486) = 200 ↔
      (routeCase p tc s).2.1.code = 0
    by_cases hzero : (routeCase p tc s).2.1.code = 0
    · simp [hzero]
    · simp [hzero]

theorem callLoop_records (p : Platform) (runs : List (TestCase × CallTimes)) (report : TestReport)
    (s : RouteState) :
    ∃ records, (callLoop p runs report s).1.records = report.records ++ records ∧
      List.Forall₂ RecordOf runs records := by
  induction runs generalizing report s with
  | nil => exact ⟨[], (List.append_nil _).symm, List.Forall₂.nil⟩
  | cons run runs ih =>
    obtain ⟨tc, times⟩ := run
    obtain ⟨records, heq, hall⟩ := ih
      ⟨report.tally.count (runSingleCall p tc times s).1
          (routeCase p tc (runSingleCall p tc times s).2.2).2.1.code,
        report.records ++ [(runSingleCall p tc times s).2.1]⟩
      (routeCase p tc (runSingleCall p tc times s).2.2).2.2
    refine ⟨(runSingleCall p tc times s).2.1 :: records, heq.trans ?_,
      List.Forall₂.cons (runSingleCall_record p tc times s) hall⟩
    dsimp only
    rw [List.append_assoc, List.singleton_append]

theorem record_mem {runs : List (TestCase × CallTimes)} {records : List CallRecord}
    (hall : List.Forall₂ RecordOf runs records) {r : CallRecord} (hr : r ∈ records) :
    ∃ run ∈ runs, RecordOf run r := by
  induction hall with
  | nil => cases hr
  | cons hrecord _ ih =>
    rcases List.mem_cons.mp hr with rfl | hr
    · exact ⟨_, List.mem_cons_self, hrecord⟩
    · obtain ⟨run, hrun, hrecord'⟩ := ih hr
      exact ⟨run, List.mem_cons_of_mem _ hrun, hrecord'⟩

/-- The ids of the records are different, as far as session keys show them. -/
theorem forall₂_pairwise {runs : List (TestCase × CallTimes)} {records : List CallRecord}
    (hall : List.Forall₂ RecordOf runs records) (hnumbers : (runs.map fun r => r.1.callNo).Nodup)
    (hthree : ∀ r ∈ runs, r.1.callNo < 1000) (hstamp : ∀ r ∈ runs, r.2.stamp.length = 14) :
    records.Pairwise fun a b => a.callId.take 242 ≠ b.callId.take 242 := by
  induction hall with
  | nil => exact List.Pairwise.nil
  | @cons run record runs records hrecord hall ih =>
    rw [List.map_cons, List.nodup_cons] at hnumbers
    refine List.Pairwise.cons ?_ (ih hnumbers.2 (fun r hr => hthree r (List.mem_cons_of_mem _ hr))
      fun r hr => hstamp r (List.mem_cons_of_mem _ hr))
    intro other hother hsame
    obtain ⟨run', hrun', hother'⟩ := record_mem hall hother
    rw [hrecord.callId, hother'.callId] at hsame
    have hnumber := testCallId_inj (hthree _ List.mem_cons_self)
      (hthree _ (List.mem_cons_of_mem _ hrun')) (hstamp _ List.mem_cons_self)
      (hstamp _ (List.mem_cons_of_mem _ hrun')) hsame
    exact hnumbers.1 (List.mem_map.mpr ⟨run', hrun', hnumber.symm⟩)

/-- **The records**: one for each call, in order, with a duration of one to
    five seconds and the status 200 just for SUCCESS; ending one call never
    removes the session entry of another. -/
theorem call_test_records (p : Platform) (s : RouteState) {runs : List (TestCase × CallTimes)}
    (hnumbers : (runs.map fun r => r.1.callNo).Nodup) (hthree : ∀ r ∈ runs, r.1.callNo < 1000)
    (hstamp : ∀ r ∈ runs, r.2.stamp.length = 14) :
    List.Forall₂ RecordOf runs (callTestRun p runs s).1.records ∧
      (callTestRun p runs s).1.records.Pairwise fun a b =>
        EntryKept a.callId b.callId ∧ EntryKept b.callId a.callId := by
  obtain ⟨records, heq, hall⟩ := callLoop_records p runs ⟨⟨0, 0, 0, 0, 0, 0⟩, []⟩
    (forceWorktime true s)
  have hrecords : (callTestRun p runs s).1.records = records := heq
  rw [hrecords]
  refine ⟨hall, (forall₂_pairwise hall hnumbers hthree hstamp).imp ?_⟩
  intro a b hne
  rw [entryKept_iff, entryKept_iff, Ne, Ne, sessionKey_eq_iff, sessionKey_eq_iff]
  exact ⟨hne, hne.symm⟩

/-- The table of the program, all of it within one second. -/
theorem call_test_records_sunday :
    (callTestRun sundayNight (testCases.map fun tc => (tc, ⟨cstr "20250105220000", 0⟩))
      (loadedState sundayNight 0)).1.records.Pairwise fun a b =>
        EntryKept a.callId b.callId ∧ EntryKept b.callId a.callId := by
  apply (call_test_records _ _ _ _ _).2
  · decide
  · decide
  · decide

end CallTest
