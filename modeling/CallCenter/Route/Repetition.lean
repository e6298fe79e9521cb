import CallCenter.Route.External

/-! # The Same Call Again

    What `route_call` does when a call is made twice while the clock stands
    still.  The effect of a decision is a function of the tables
    (`Decision.effect`), so the question is whether the tables after the
    first call lead to the same decision, and whether its effect is then
    idempotent.

    * Calls that only clean up the queues do so once (`cleanup_cleanup`);
      `queueCleanup_filters` says what that leaves.
    * A counter that is reset is reset again only if one invalid key is
      already too many; one that is raised is raised again.
    * A caller who is queued is queued again, unless an entry expires as soon
      as it is made.
    * Calls from inside depend on the tables and change nothing. -/

namespace Route

open CFormat Lua Script

/-! ## Section 1: Cleaning up twice -/

/-- The loop removes what has expired and keeps the order. -/
theorem cleanupFrom_eq (expired : QueueEntry → Bool) (q : List QueueEntry) (i : Nat) :
    cleanupFrom expired q i = q.take i ++ (q.drop i).filter fun e => !expired e := by
  fun_induction cleanupFrom expired q i with
  | case1 q i h hexpired ih =>
    -- the entry at `i` is gone, and `i` is the place of the next one
    have hlen : (q.take i).length = i := List.length_take_of_le (by omega)
    rw [ih, List.eraseIdx_eq_take_drop_succ, List.take_left' hlen, List.drop_left' hlen,
      List.drop_eq_getElem_cons h, List.filter_cons_of_neg (by simpa using hexpired)]
  | case2 q i h hexpired ih =>
    rw [ih, List.take_succ_eq_append_getElem h, List.drop_eq_getElem_cons h,
      List.filter_cons_of_pos (by simpa using hexpired), List.append_assoc]
    rfl
  | case3 q i h =>
    rw [List.take_of_length_le (by omega), List.drop_eq_nil_of_le (by omega)]
    exact (List.append_nil q).symm

section Queues

variable (t : RouteTables) (now : Int) (deptKey : CStr)

/-- Tables are given by their queues and the rest. -/
def RouteTables.withQueue (t : RouteTables) (queue : CStr → Option (List QueueEntry)) :
    RouteTables :=
  { t with queue := queue }

theorem cleanup_eq :
    t.cleanup now = t.withQueue fun deptKey =>
      (t.queue deptKey).map fun q => q.filter fun e => !t.config.expired now e := by
  unfold RouteTables.cleanup RouteTables.withQueue
  simp only [cleanupFrom_eq, List.take_zero, List.drop_zero, List.nil_append]

/-- Nothing has expired. -/
def RouteTables.Clean (t : RouteTables) (now : Int) : Prop :=
  ∀ deptKey q, t.queue deptKey = some q → ∀ e ∈ q, t.config.expired now e = false

theorem clean_cleanup : (t.cleanup now).Clean now := by
  rw [cleanup_eq]
  intro deptKey q hq e he
  obtain ⟨q₀, -, rfl⟩ := Option.map_eq_some_iff.mp hq
  have hkept := (List.mem_filter.mp he).2
  show t.config.expired now e = false
  simpa using hkept

/-- **`queue_cleanup`** leaves in every queue the entries that have not waited
    for longer than `queue_timeout`, each once and in their order.  Nothing
    is longer than NaN. -/
theorem queueCleanup_filters (p : Platform) (s : RouteState) :
    outcome (queueCleanup p) s =
      (.ok (), s.tick.withTables (s.tables.withQueue fun deptKey =>
        (s.tables.queue deptKey).map fun q => q.filter fun e =>
          (LuaNumber.int (p.clock s.reads - e.arrival)).le s.tables.config.queueTimeout ||
            decide (s.tables.config.queueTimeout = .float .nan))) := by
  rw [outcome_queueCleanup, cleanup_eq]
  simp only [RouteConfig.expired, not_lt_int]

/-- One caller, and a limit that is no number. -/
def nanState : RouteState where
  tables :=
    { RouteTables.declared with
      config := { RouteConfig.default with queueTimeout := .float .nan }
      queue := fun _ => some [⟨cstr "13800138000", 0⟩] }
  callLog := fun _ => none
  callLogIndex := 0
  reads := 0

/-- With NaN for a limit nobody is removed, and nobody has waited for less. -/
theorem nan_keeps_queue :
    ¬ ∀ (p : Platform) (s : RouteState) (deptKey : CStr) (q : List QueueEntry),
      s.tables.queue deptKey = some q →
      (outcome (queueCleanup p) s).2.tables.queue deptKey = some (q.filter fun e =>
        (LuaNumber.int (p.clock s.reads - e.arrival)).le s.tables.config.queueTimeout) := by
  intro h
  have hempty := h (.steady 0 ⟨2, 9, 0⟩) nanState (cstr "sales") _ rfl
  rw [outcome_queueCleanup, withTables_tables, cleanup_eq] at hempty
  have hkept : ([⟨cstr "13800138000", 0⟩] : List QueueEntry) = [] := Option.some.inj hempty
  cases hkept

variable {t now}

theorem RouteTables.Clean.filter (h : t.Clean now) {q : List QueueEntry}
    (hq : t.queue deptKey = some q) : (q.filter fun e => !t.config.expired now e) = q := by
  rw [List.filter_eq_self]
  intro e he
  rw [h deptKey q hq e he]
  rfl

theorem RouteTables.Clean.cleanup_eq (h : t.Clean now) : t.cleanup now = t := by
  have hqueue : (fun deptKey => (t.queue deptKey).map fun q =>
      q.filter fun e => !t.config.expired now e) = t.queue := by
    funext deptKey
    cases hq : t.queue deptKey with
    | none => rfl
    | some q => exact congrArg some (h.filter deptKey hq)
  rw [Route.cleanup_eq, hqueue]
  rfl

/-- A second clean-up at the same time does nothing. -/
theorem cleanup_cleanup (t : RouteTables) (now : Int) :
    (t.cleanup now).cleanup now = t.cleanup now :=
  (clean_cleanup t now).cleanup_eq

theorem RouteTables.Clean.openQueue (h : t.Clean now) : (t.openQueue deptKey).Clean now := by
  unfold RouteTables.openQueue
  split
  · exact h
  · intro key q hq e he
    by_cases hkey : key = deptKey
    · subst hkey
      rw [setQueue_self] at hq
      rw [← Option.some.inj hq] at he
      cases he
    · rw [setQueue_of_ne _ _ _ hkey] at hq
      exact h key q hq e he

theorem openQueue_openQueue (t : RouteTables) (deptKey : CStr) :
    (t.openQueue deptKey).openQueue deptKey = t.openQueue deptKey := by
  have hself := openQueue_self t deptKey
  generalize t.openQueue deptKey = opened at hself ⊢
  unfold RouteTables.openQueue
  rw [hself]

/-- An entry that expires at once is gone after the next clean-up, but the
    queue that was made for it stays. -/
theorem enqueue_cleanup (h : t.Clean now) (callerId : CStr)
    (hexpires : t.config.queueTimeout.lt (.int 0) = true) :
    (t.enqueue deptKey ⟨callerId, now⟩).cleanup now = t.openQueue deptKey := by
  have hentry : t.config.expired now ⟨callerId, now⟩ = true := by
    unfold RouteConfig.expired
    rw [Int.sub_self]
    exact hexpires
  have hqueue : (fun key => ((t.enqueue deptKey ⟨callerId, now⟩).queue key).map fun q =>
      q.filter fun e => !t.config.expired now e) = (t.openQueue deptKey).queue := by
    funext key
    by_cases hkey : key = deptKey
    · subst hkey
      rw [RouteTables.enqueue, setQueue_self, openQueue_self, Option.map_some,
        List.filter_append, List.filter_cons_of_neg (by simp [hentry]), List.filter_nil,
        List.append_nil]
      cases hq : t.queue key with
      | none => rfl
      | some q => exact congrArg some (h.filter key hq)
    · rw [RouteTables.enqueue, setQueue_of_ne _ _ _ hkey, openQueue_of_ne _ _ hkey]
      cases hq : t.queue key with
      | none => rfl
      | some q => exact congrArg some (h.filter key hq)
  have hopen : t.openQueue deptKey = t.withQueue (t.openQueue deptKey).queue := by
    unfold RouteTables.openQueue
    split <;> rfl
  rw [hopen, ← hqueue, cleanup_eq]
  rfl

end Queues

/-! ## Section 2: Effects -/

/-- The tables after a decision, where the clock stands at `now`. -/
def Decision.effect (t : RouteTables) (now : Int) (callerId : Option CStr) :
    Decision → RouteTables
  | .clockError _ | .nightAgent _ | .nightFallback | .nightVoicemail => t
  | .timeoutRetry => t.setTimeouts (counted callerId) (t.nextTimeouts callerId)
  | .timeoutEscalation => t.setTimeouts (counted callerId) 0
  | .keyRetry => t.setInvalidKeys (counted callerId) (t.nextInvalidKeys callerId)
  | .keyEscalation => t.setInvalidKeys (counted callerId) 0
  | .offline | .agentOf _ | .overflowTo _ => t.cleanup now
  | .queued deptKey => (t.cleanup now).enqueue deptKey ⟨callerId.getD [], now⟩
  | .queueFull deptKey => (t.cleanup now).openQueue deptKey

/-- The code of the answer, if there is one. -/
def resultCode (r : Except LuaError Answer) : Option Int :=
  match r with
  | .ok a => some a.code
  | .error _ => none

/-- The code that a decision leads to. -/
def Decision.code (config : RouteConfig) : Decision → Option Int
  | .clockError _ => none
  | .nightAgent _ | .nightFallback => some 6
  | .nightVoicemail | .queueFull _ => some 7
  | .timeoutRetry => config.ivrTimeout.toInteger?.map fun _ => 8
  | .keyRetry => config.maxInvalidKeys.toInteger?.map fun _ => 9
  | .queued _ => config.maxQueueSize.toInteger?.map fun _ => 5
  | .timeoutEscalation | .keyEscalation | .overflowTo _ => some 4
  | .offline => some 3
  | .agentOf _ => some 0

section Effects

variable {p : Platform} {t t' : RouteTables} {now : Int} {callerId : Option CStr} {d : Decision}
  {r : Except LuaError Answer}

theorem Follows.effect (hclock : ∀ n, p.clock n = now)
    (h : Follows p t now callerId d r t') : t' = d.effect t now callerId := by
  cases d with
  | queued deptKey =>
    obtain ⟨-, arrival, ⟨n, rfl⟩, rfl⟩ := h
    rw [hclock n]
    rfl
  | _ => exact h.2

theorem Answers.resultCode {code : Int} {target : CStr} (h : Answers r code target) :
    resultCode r = some code := by
  obtain ⟨a, rfl, rfl, -⟩ := h
  rfl

theorem AnswersWith.resultCode {v : LuaNumber} {code : Int} {target : CStr}
    (h : AnswersWith v r code target) : resultCode r = v.toInteger?.map fun _ => code := by
  unfold AnswersWith at h
  cases hv : v.toInteger? with
  | some n =>
    rw [hv] at h
    exact h.resultCode
  | none =>
    rw [hv] at h
    rw [h]
    rfl

theorem NightAnswers.resultCode {code : Int} {target : CStr}
    (hfails : ∀ e, ¬ ClockFails p t e) (h : NightAnswers p t r code target) :
    resultCode r = some code := by
  rcases h with h | ⟨e, hclock, -⟩
  · exact h.resultCode
  · exact absurd hclock (hfails e)

theorem Follows.resultCode (hfails : (∀ e, d ≠ .clockError e) → ∀ e, ¬ ClockFails p t e)
    (h : Follows p t now callerId d r t') : resultCode r = d.code t.config := by
  cases d with
  | clockError e =>
    rw [h.1]
    rfl
  | nightAgent | nightFallback | nightVoicemail => exact h.1.resultCode (hfails nofun)
  | timeoutRetry | keyRetry => exact h.1.resultCode
  | timeoutEscalation | keyEscalation | offline | queueFull => exact h.1.resultCode
  | agentOf | overflowTo =>
    obtain ⟨⟨agent, -, hanswer⟩, -⟩ := h
    exact hanswer.resultCode
  | queued =>
    obtain ⟨⟨dept, -, hanswer⟩, -⟩ := h
    exact hanswer.resultCode

end Effects

/-! ## Section 3: The decision again -/

/-- The call counts no invalid key, unless one is already too many, and does
    not queue the caller, unless an entry expires at once. -/
def Decision.Repeats (config : RouteConfig) : Decision → Prop
  | .keyRetry => False
  | .keyEscalation => config.maxInvalidKeys.le (.int 1) = true
  | .queued _ => config.queueTimeout.lt (.int 0) = true
  | _ => True

/-- The decisions about a caller who has pressed the key of a department. -/
def Decision.AtDept (deptKey : CStr) : Decision → Prop
  | .offline | .agentOf _ | .overflowTo _ => True
  | .queued key | .queueFull key => key = deptKey
  | _ => False

section Again

variable {p : Platform} {t t' : RouteTables} {now : Int} {callerId digits : Option CStr}
  {d : Decision} {deptKey : CStr}

@[simp] theorem effect_config : (d.effect t now callerId).config = t.config := by
  cases d <;> simp [Decision.effect, RouteTables.enqueue]

@[simp] theorem effect_agents : (d.effect t now callerId).agents = t.agents := by
  cases d <;> simp [Decision.effect, RouteTables.enqueue]

@[simp] theorem effect_forceWorktime :
    (d.effect t now callerId).forceWorktime = t.forceWorktime := by
  cases d with
  | queueFull deptKey =>
    show ((t.cleanup now).openQueue deptKey).forceWorktime = t.forceWorktime
    unfold RouteTables.openQueue
    split <;> rfl
  | _ => rfl

theorem workTimeAt_congr (hforce : t'.forceWorktime = t.forceWorktime)
    (hconfig : t'.config = t.config) (now : Date) : workTimeAt t' now = workTimeAt t now := by
  unfold workTimeAt
  rw [hforce, hconfig]

theorem overflowDecision_congr (hconfig : t'.config = t.config) (hagents : t'.agents = t.agents)
    (hfull : (t'.cleanup now).queueFull deptKey = (t.cleanup now).queueFull deptKey) :
    overflowDecision t' now deptKey = overflowDecision t now deptKey := by
  have hfind : findOverflowDept t' deptKey = findOverflowDept t deptKey := by
    unfold findOverflowDept
    rw [hconfig, hagents]
  unfold overflowDecision
  rw [hagents, hfind, hfull]

/-- What a caller with the key of a department gets depends on the agents, the
    configuration and whether the queue has a place. -/
theorem ivrDecision_congr (hdigits : digits.getD [] ≠ [])
    (hmap : ivrMap (digits.getD []) = some deptKey) (hconfig : t'.config = t.config)
    (hagents : t'.agents = t.agents)
    (hfull : (t'.cleanup now).queueFull deptKey = (t.cleanup now).queueFull deptKey) :
    ivrDecision t' now callerId digits = ivrDecision t now callerId digits := by
  unfold ivrDecision
  rw [if_neg hdigits, if_neg hdigits, hmap]
  dsimp only
  rw [hagents, overflowDecision_congr hconfig hagents hfull]

theorem ivrDecision_atDept (hdigits : digits.getD [] ≠ [])
    (hmap : ivrMap (digits.getD []) = some deptKey) :
    (ivrDecision t now callerId digits).AtDept deptKey := by
  unfold ivrDecision overflowDecision
  rw [if_neg hdigits, hmap]
  dsimp only
  split
  · trivial
  · split
    · split
      · trivial
      · split
        · trivial
        · split <;> rfl
    · trivial

/-- At a department the effect leaves the place in the queue as it was, and is
    idempotent. -/
theorem Decision.AtDept.again (hd : d.AtDept deptKey) (hrepeats : d.Repeats t.config)
    (now : Int) (callerId : Option CStr) :
    ((d.effect t now callerId).cleanup now).queueFull deptKey =
        (t.cleanup now).queueFull deptKey ∧
      d.effect (d.effect t now callerId) now callerId = d.effect t now callerId := by
  have hclean := clean_cleanup t now
  cases d with
  | offline | agentOf _ | overflowTo _ =>
    refine ⟨?_, cleanup_cleanup t now⟩
    show ((t.cleanup now).cleanup now).queueFull deptKey = _
    rw [cleanup_cleanup]
  | queueFull key =>
    obtain rfl : key = deptKey := hd
    have hopened := (hclean.openQueue key).cleanup_eq
    constructor
    · show (((t.cleanup now).openQueue key).cleanup now).queueFull key = _
      rw [hopened]
      simp [RouteTables.queueFull]
    · show (((t.cleanup now).openQueue key).cleanup now).openQueue key = _
      rw [hopened, openQueue_openQueue]
      rfl
  | queued key =>
    obtain rfl : key = deptKey := hd
    have hgone := enqueue_cleanup key hclean (callerId.getD []) hrepeats
    constructor
    · show (((t.cleanup now).enqueue key _).cleanup now).queueFull key = _
      rw [hgone]
      simp [RouteTables.queueFull]
    · show (((t.cleanup now).enqueue key _).cleanup now).enqueue key _ = _
      rw [hgone]
      simp [RouteTables.enqueue, Decision.effect]
  | _ => exact hd.elim

theorem ivrDecision_again (hdigits : digits.getD [] ≠ [])
    (hd : ivrDecision t now callerId digits = d) (hrepeats : d.Repeats t.config) :
    ivrDecision (d.effect t now callerId) now callerId digits = d ∧
      d.effect (d.effect t now callerId) now callerId = d.effect t now callerId := by
  cases hmap : ivrMap (digits.getD []) with
  | some deptKey =>
    have hdept : d.AtDept deptKey := hd ▸ ivrDecision_atDept hdigits hmap
    obtain ⟨hfull, hagain⟩ := hdept.again hrepeats now callerId
    refine ⟨?_, hagain⟩
    rw [ivrDecision_congr hdigits hmap effect_config effect_agents hfull, hd]
  | none =>
    unfold ivrDecision at hd
    rw [if_neg hdigits, hmap] at hd
    dsimp only at hd
    split at hd
    · subst hd
      -- the count is back to zero, and one key is already too many
      have hone : (t.setInvalidKeys (counted callerId) 0).nextInvalidKeys callerId = 1 := by
        simp [RouteTables.nextInvalidKeys]
      refine ⟨?_, setInvalidKeys_setInvalidKeys _ _ _ _⟩
      show ivrDecision (t.setInvalidKeys (counted callerId) 0) now callerId digits = _
      unfold ivrDecision
      rw [if_neg hdigits, hmap, hone]
      exact if_pos hrepeats
    · subst hd
      exact hrepeats.elim

/-- **The same decision again**, with the same effect. -/
theorem decision_again {work : Except LuaError Bool} (hdigits : digits.getD [] ≠ [])
    (hd : decision p t work now callerId digits = d) (hrepeats : d.Repeats t.config) :
    decision p (d.effect t now callerId) work now callerId digits = d ∧
      d.effect (d.effect t now callerId) now callerId = d.effect t now callerId := by
  cases work with
  | error e =>
    obtain rfl : Decision.clockError e = d := hd
    exact ⟨rfl, rfl⟩
  | ok work =>
    cases work with
    | true => exact ivrDecision_again hdigits hd hrepeats
    | false =>
      replace hd : nightDecision p t = d := hd
      have hnone : d.effect t now callerId = t := by
        rcases nightDecision_cases p t with ⟨agent, h⟩ | h | h <;> rw [← hd, h] <;> rfl
      rw [hnone]
      exact ⟨hd, hnone⟩

end Again

/-! ## Section 4: Calls from inside -/

theorem getTables_observes : Observes RouteState.tables getTables :=
  fun s => ⟨rfl, fun s' h => by
    show Except.ok s'.tables = Except.ok s.tables
    rw [h]⟩

theorem logCall_observes (p : Platform) (level : CStr) (callerId : Option CStr)
    (event detail : CStr) :
    Observes RouteState.tables (logCall p level callerId event detail) :=
  fun _ => ⟨rfl, fun _ _ => rfl⟩

theorem concatOperand_observes (text : Option CStr) :
    Observes RouteState.tables (concatOperand text) := by
  cases text with
  | some text => exact Observes.pure text
  | none => exact Observes.throw LuaError.concatNil

/-- A call from inside reads the tables and changes none. -/
theorem deptInternalCallRoute_observes (p : Platform) (caller callee : Option CStr) :
    Observes RouteState.tables (deptInternalCallRoute p caller callee) := by
  unfold deptInternalCallRoute
  apply Observes.bind (concatOperand_observes callee)
  intro text
  apply Observes.bind (logCall_observes p _ _ _ _)
  intro _
  apply Observes.bind getTables_observes
  intro t
  split
  · apply Observes.bind (concatOperand_observes caller)
    intro callerText
    exact Observes.pure _
  · apply Observes.bind (concatOperand_observes caller)
    intro callerText
    apply Observes.bind (concatOperand_observes callee)
    intro calleeText
    apply Observes.ite
    · exact Observes.pure _
    · cases findDepartment calleeText with
      | none => exact Observes.pure _
      | some callee =>
        exact Observes.ite (Observes.pure _) (Observes.ite (Observes.pure _) (Observes.pure _))

/-! ## Section 5: The call again -/

/-- The condition on a call; `now` is where the clock stands. -/
def CallRepeats (p : Platform) (s : RouteState) (now : Int) (callerId digits : Option CStr) :
    Prop :=
  isExternalCaller callerId = true →
    (callDecision p s now callerId digits).Repeats s.tables.config

section Clock

variable {p : Platform} {now : Int} {callerId : Option CStr}

theorem routeCall_follows_at (hclock : ∀ n, p.clock n = now)
    (hexternal : isExternalCaller callerId = true) (digits : Option CStr) (s : RouteState) :
    Follows p s.tables now callerId (callDecision p s now callerId digits)
      (outcome (routeCall p callerId digits) s).1
      (outcome (routeCall p callerId digits) s).2.tables := by
  obtain ⟨_, ⟨n, rfl⟩, h⟩ := routeCall_follows hexternal digits s (p := p)
  rwa [hclock n] at h

theorem routeCall_effect (hclock : ∀ n, p.clock n = now)
    (hexternal : isExternalCaller callerId = true) (digits : Option CStr) (s : RouteState) :
    (outcome (routeCall p callerId digits) s).2.tables =
      (callDecision p s now callerId digits).effect s.tables now callerId :=
  (routeCall_follows_at hclock hexternal digits s).effect hclock

theorem routeCall_code (hclock : ∀ n, p.clock n = now)
    (hexternal : isExternalCaller callerId = true) (digits : Option CStr) (s : RouteState) :
    resultCode (outcome (routeCall p callerId digits) s).1 =
      (callDecision p s now callerId digits).code s.tables.config := by
  apply (routeCall_follows_at hclock hexternal digits s).resultCode
  rintro hno e ⟨_, ⟨n, rfl⟩, hfails⟩
  -- the clock would have failed before
  apply hno e
  unfold callDecision
  rw [hclock s.reads, ← hclock n, hfails]
  rfl

/-- **The same call again**, with a key and while the clock stands still: the
    answer has the same code, and the tables stay as the first call left them. -/
theorem routeCall_again (hclock : ∀ n, p.clock n = now) {digits : Option CStr}
    (hdigits : digits.getD [] ≠ []) (s : RouteState)
    (hrepeats : CallRepeats p s now callerId digits) :
    resultCode (outcome (routeCall p callerId digits)
        (outcome (routeCall p callerId digits) s).2).1 =
      resultCode (outcome (routeCall p callerId digits) s).1 ∧
    (outcome (routeCall p callerId digits) (outcome (routeCall p callerId digits) s).2).2.tables =
      (outcome (routeCall p callerId digits) s).2.tables := by
  by_cases hexternal : isExternalCaller callerId = true
  · obtain ⟨hagain, hsame⟩ := decision_again hdigits rfl (hrepeats hexternal)
    have hfirst := routeCall_code hclock hexternal digits s
    have htables := routeCall_effect hclock hexternal digits s
    generalize (outcome (routeCall p callerId digits) s).2 = s' at htables ⊢
    have hdecision : callDecision p s' now callerId digits =
        callDecision p s now callerId digits := by
      have hread : p.clock s'.reads = p.clock s.reads := (hclock _).trans (hclock _).symm
      unfold callDecision at htables ⊢
      rw [htables, hread, workTimeAt_congr effect_forceWorktime effect_config]
      exact hagain
    constructor
    · rw [routeCall_code hclock hexternal, hfirst, hdecision, htables, effect_config]
    · rw [routeCall_effect hclock hexternal, hdecision, htables]
      exact hsame
  · have hinternal : ∀ s₁, outcome (routeCall p callerId digits) s₁ =
        outcome (deptInternalCallRoute p callerId digits) s₁ := by
      intro s₁
      unfold routeCall
      rw [if_neg hexternal]
    rw [hinternal, hinternal]
    obtain ⟨hkept, hsame⟩ := deptInternalCallRoute_observes p callerId digits s
    exact ⟨congrArg resultCode (hsame _ hkept),
      (deptInternalCallRoute_observes p callerId digits _).1⟩

end Clock

end Route
