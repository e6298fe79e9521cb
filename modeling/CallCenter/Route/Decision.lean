import CallCenter.Route.Steps

/-! # The Decision of `route_call`

    An external call ends in one of a few ways.  `decision` says in which, as
    a function of the tables, what `is_work_time` returns and the time at
    which the queues are cleaned up; `Follows` says what each way means for
    the answer and for the tables.

    `routeCall_follows` is the result: `route_call` does what it decides.
    What holds of every call of an external caller is read off the decisions. -/

namespace Route

open CFormat Lua Script

/-! ## Section 1: Decisions -/

inductive Decision where
  /-- `is_work_time` raises an error. -/
  | clockError (e : LuaError)
  | nightAgent (agent : Agent)
  | nightFallback
  | nightVoicemail
  | timeoutRetry
  | timeoutEscalation
  | keyRetry
  | keyEscalation
  /-- The department of the key is offline. -/
  | offline
  /-- An idle agent of the department of the key. -/
  | agentOf (deptKey : CStr)
  /-- An idle agent of another department. -/
  | overflowTo (deptKey : CStr)
  | queued (deptKey : CStr)
  | queueFull (deptKey : CStr)
  deriving DecidableEq, Repr

def nightDecision (p : Platform) (t : RouteTables) : Decision :=
  if (getDeptAgents t.agents t.config.nightDutyDept).any fun a =>
      a.state = .idle || a.state = .talking then
    match pickIdleAgent p t.agents t.config.nightDutyDept with
    | some agent => .nightAgent agent
    | none => .nightFallback
  else .nightVoicemail

def overflowDecision (t : RouteTables) (now : Int) (deptKey : CStr) : Decision :=
  if 0 < countIdleAgents t.agents (cstr "support") then .overflowTo (cstr "support")
  else
    match findOverflowDept t deptKey with
    | some (_, key) => .overflowTo key
    | none => if (t.cleanup now).queueFull deptKey then .queueFull deptKey else .queued deptKey

def ivrDecision (t : RouteTables) (now : Int) (callerId digits : Option CStr) : Decision :=
  if digits.getD [] = [] then
    if 2 ≤ t.nextTimeouts callerId then .timeoutEscalation else .timeoutRetry
  else
    match ivrMap (digits.getD []) with
    | none =>
      if t.config.maxInvalidKeys.le (.int (t.nextInvalidKeys callerId)) then .keyEscalation
      else .keyRetry
    | some deptKey =>
      if allOffline t.agents deptKey then .offline
      else if countIdleAgents t.agents deptKey = 0 then overflowDecision t now deptKey
      else .agentOf deptKey

def decision (p : Platform) (t : RouteTables) (work : Except LuaError Bool) (now : Int)
    (callerId digits : Option CStr) : Decision :=
  match work with
  | .error e => .clockError e
  | .ok false => nightDecision p t
  | .ok true => ivrDecision t now callerId digits

/-- The decision of a call in a state.  The first reading of the clock is that
    of `is_work_time`. -/
def callDecision (p : Platform) (s : RouteState) (now : Int) (callerId digits : Option CStr) :
    Decision :=
  decision p s.tables (workTimeAt s.tables (p.date (p.clock s.reads))) now callerId digits

/-- An answer at night shows the time, which may fail. -/
def NightAnswers (p : Platform) (t : RouteTables) (r : Except LuaError Answer) (code : Int)
    (target : CStr) : Prop :=
  Answers r code target ∨ ∃ e, ClockFails p t e ∧ r = .error e

/-- The answer and the tables that a decision leads to; `now` is the time at
    which the queues are cleaned up. -/
def Follows (p : Platform) (t : RouteTables) (now : Int) (callerId : Option CStr)
    (d : Decision) (r : Except LuaError Answer) (t' : RouteTables) : Prop :=
  match d with
  | .clockError e => r = .error e ∧ t' = t
  | .nightAgent agent => NightAnswers p t r 6 agent.extension ∧ t' = t
  | .nightFallback => NightAnswers p t r 6 t.config.fallbackAgent ∧ t' = t
  | .nightVoicemail => NightAnswers p t r 7 [] ∧ t' = t
  | .timeoutRetry =>
    AnswersWith t.config.ivrTimeout r 8 [] ∧
      t' = t.setTimeouts (counted callerId) (t.nextTimeouts callerId)
  | .timeoutEscalation =>
    Answers r 4 (t.supportTarget p) ∧ t' = t.setTimeouts (counted callerId) 0
  | .keyRetry =>
    AnswersWith t.config.maxInvalidKeys r 9 [] ∧
      t' = t.setInvalidKeys (counted callerId) (t.nextInvalidKeys callerId)
  | .keyEscalation =>
    Answers r 4 (t.supportTarget p) ∧ t' = t.setInvalidKeys (counted callerId) 0
  | .offline => Answers r 3 t.config.fallbackAgent ∧ t' = t.cleanup now
  | .agentOf deptKey =>
    (∃ agent, pickIdleAgent p t.agents deptKey = some agent ∧ Answers r 0 agent.extension) ∧
      t' = t.cleanup now
  | .overflowTo deptKey =>
    (∃ agent, pickIdleAgent p t.agents deptKey = some agent ∧ Answers r 4 agent.extension) ∧
      t' = t.cleanup now
  | .queued deptKey =>
    (∃ dept, department deptKey = some dept ∧ AnswersWith t.config.maxQueueSize r 5 dept.short) ∧
      ∃ arrival, p.Reads arrival ∧
        t' = (t.cleanup now).enqueue deptKey ⟨callerId.getD [], arrival⟩
  | .queueFull deptKey => Answers r 7 [] ∧ t' = (t.cleanup now).openQueue deptKey

/-! ## Section 2: Departments -/

/-- A department with a key is known and external. -/
theorem ivrMap_department {key deptKey : CStr} (h : ivrMap key = some deptKey) :
    ∃ dept, department deptKey = some dept ∧ dept.external = true := by
  have hall : ∀ d ∈ departments, d.2.ivrKey ≠ none →
      department d.1 = some d.2 ∧ d.2.external = true := by decide +kernel
  obtain ⟨d, hd, rfl⟩ := Option.map_eq_some_iff.mp h
  obtain ⟨hdept, hexternal⟩ := hall d (List.mem_of_find?_eq_some hd) (by
    have hkey := List.find?_some hd
    simp only [decide_eq_true_eq] at hkey
    rw [hkey]
    nofun)
  exact ⟨d.2, hdept, hexternal⟩

/-! ## Section 3: `route_call` does what it decides -/

variable {p : Platform} {t : RouteTables}

theorem overflowRoute_follows {deptKey : CStr} {dept : Department}
    (hdept : department deptKey = some dept) (now : Int) (callerId : Option CStr) {s : RouteState}
    (hs : s.tables = t.cleanup now) :
    Runs (overflowRoute p deptKey callerId) s fun r s' =>
      Follows p t now callerId (overflowDecision t now deptKey) r s'.tables := by
  have hagents : s.tables.agents = t.agents := by rw [hs]; rfl
  have hfind : findOverflowDept s.tables deptKey = findOverflowDept t deptKey := by rw [hs]; rfl
  unfold overflowDecision
  by_cases hidle : 0 < countIdleAgents t.agents (cstr "support")
  · rw [if_pos hidle]
    apply Runs.mono (overflowRoute_support p s callerId (by rw [hagents]; exact hidle))
    rintro r s' ⟨⟨agent, hpick, hanswer⟩, htables⟩
    rw [hagents] at hpick
    exact ⟨⟨agent, hpick, hanswer⟩, htables.trans hs⟩
  · rw [if_neg hidle]
    rw [← hagents] at hidle
    cases hoverflow : findOverflowDept t deptKey with
    | some found =>
      obtain ⟨overflowDept, key⟩ := found
      rw [← hfind] at hoverflow
      apply Runs.mono (overflowRoute_other p s callerId hidle hoverflow)
      rintro r s' ⟨⟨agent, hpick, hanswer⟩, htables⟩
      rw [hagents] at hpick
      exact ⟨⟨agent, hpick, hanswer⟩, htables.trans hs⟩
    | none =>
      rw [← hfind] at hoverflow
      apply overflowRoute_queue p s callerId hidle hoverflow
      intro s₁ hs₁
      rw [hs] at hs₁
      dsimp only
      by_cases hfull : (t.cleanup now).queueFull deptKey = true
      · rw [if_pos hfull]
        rw [← hs₁] at hfull
        apply Runs.mono (enqueueOrVoicemail_full p _ _ hfull)
        rintro r s' ⟨hanswer, htables⟩
        rw [hs₁] at htables
        exact ⟨hanswer, htables⟩
      · rw [if_neg hfull]
        rw [← hs₁] at hfull
        apply Runs.mono (enqueueOrVoicemail_room p _ _ hdept hfull)
        rintro r s' ⟨hanswer, arrival, hread, htables⟩
        rw [hs₁] at hanswer htables
        exact ⟨⟨dept, hdept, hanswer⟩, arrival, hread, htables⟩

theorem timeoutFallback_follows (now : Int) (callerId : Option CStr) {s : RouteState}
    (hs : s.tables = t) :
    Runs (timeoutFallback p callerId) s fun r s' =>
      Follows p t now callerId
        (if 2 ≤ t.nextTimeouts callerId then .timeoutEscalation else .timeoutRetry) r
        s'.tables := by
  subst hs
  by_cases hretry : 2 ≤ s.tables.nextTimeouts callerId
  · rw [if_pos hretry]
    exact timeoutFallback_escalates p s hretry
  · rw [if_neg hretry]
    exact timeoutFallback_retries p s hretry

theorem invalidKeyFallback_follows (now : Int) (callerId keyInput : Option CStr) {s : RouteState}
    (hs : s.tables = t) :
    Runs (invalidKeyFallback p callerId keyInput) s fun r s' =>
      Follows p t now callerId
        (if t.config.maxInvalidKeys.le (.int (t.nextInvalidKeys callerId)) then .keyEscalation
          else .keyRetry) r s'.tables := by
  subst hs
  by_cases hlimit : s.tables.config.maxInvalidKeys.le
      (.int (s.tables.nextInvalidKeys callerId)) = true
  · rw [if_pos hlimit]
    exact invalidKeyFallback_escalates p s hlimit
  · rw [if_neg hlimit]
    exact invalidKeyFallback_retries p s hlimit

theorem getIvrRoute_follows (callerId digits : Option CStr) {s : RouteState}
    (hs : s.tables = t) :
    Runs (getIvrRoute p callerId digits) s fun r s' =>
      Follows p t (p.clock (s.reads + 1)) callerId
        (ivrDecision t (p.clock (s.reads + 1)) callerId digits) r s'.tables := by
  unfold getIvrRoute ivrDecision
  apply Runs.bind_ok (outcome_logCall p s _ _ _ _)
  generalize hlogged : s.logged p _ _ _ _ = s₁
  replace hs : s₁.tables = t := by rw [← hlogged]; exact hs
  have hreads : s₁.reads = s.reads + 1 := by rw [← hlogged]; rfl
  rw [← hreads]
  cases digits with
  | none => exact timeoutFallback_follows _ callerId hs
  | some key =>
    dsimp only [Option.getD_some]
    by_cases hempty : key = []
    · apply Runs.if_pos hempty
      simp only [if_pos hempty]
      exact timeoutFallback_follows _ callerId hs
    · apply Runs.if_neg hempty
      simp only [if_neg hempty]
      cases hmap : ivrMap key with
      | none =>
        exact invalidKeyFallback_follows _ callerId _ hs
      | some deptKey =>
        obtain ⟨dept, hdept, hexternal⟩ := ivrMap_department hmap
        dsimp only
        apply Runs.bind_ok (outcome_getTables s₁)
        rw [hdept]
        dsimp only
        apply Runs.if_neg (by rw [hexternal]; decide)
        apply Runs.bind (checkAgentStatus_runs p s₁ hdept)
        · rintro status s₂ ⟨_, ⟨⟩, hcode, htables⟩
          rw [hs] at hcode htables
          apply Runs.bind_ok (outcome_getTables s₂)
          unfold statusCode at hcode
          by_cases hoffline : allOffline t.agents deptKey
          · rw [if_pos hoffline] at hcode
            simp only [hcode, if_pos hoffline]
            refine Runs.of_eq rfl ⟨?_, htables⟩
            rw [htables]
            exact answers_makeResponse _ _ _ _
          · rw [if_neg hoffline] at hcode
            simp only [if_neg hoffline]
            by_cases hidle : countIdleAgents t.agents deptKey = 0
            · rw [if_pos hidle] at hcode
              simp only [hcode, if_pos hidle]
              exact overflowRoute_follows hdept _ callerId htables
            · rw [if_neg hidle] at hcode
              simp only [hcode, if_neg hidle]
              obtain ⟨agent, hpick⟩ :=
                Option.isSome_iff_exists.mp (pickIdleAgent_isSome p (Nat.pos_of_ne_zero hidle))
              refine Runs.of_eq rfl ⟨⟨agent, hpick, ?_⟩, htables⟩
              rw [htables, cleanup_agents, hpick]
              exact answers_makeResponse _ _ _ _
        · rintro e s₂ ⟨_, ⟨⟩, -⟩

/-- A department with agents is known. -/
theorem department_isSome {agents : AgentTable} {deptId : CStr} {f : Agent → Bool}
    (h : (getDeptAgents agents deptId).any f = true) : ∃ dept, department deptId = some dept := by
  obtain ⟨agent, hmem, -⟩ := List.any_eq_true.mp h
  obtain ⟨dept, -, hdept, -⟩ := mem_getDeptAgents.mp hmem
  exact ⟨dept, hdept⟩

/-- Code and target of the answer at night. -/
def nightAnswer (p : Platform) (t : RouteTables) : Int × CStr :=
  match nightDecision p t with
  | .nightAgent agent => (6, agent.extension)
  | .nightFallback => (6, t.config.fallbackAgent)
  | _ => (7, [])

def NightFollows (p : Platform) (t : RouteTables) (r : Except LuaError Answer) : Prop :=
  NightAnswers p t r (nightAnswer p t).1 (nightAnswer p t).2

theorem nightDecision_cases (p : Platform) (t : RouteTables) :
    (∃ agent, nightDecision p t = .nightAgent agent) ∨ nightDecision p t = .nightFallback ∨
      nightDecision p t = .nightVoicemail := by
  unfold nightDecision
  split
  · split
    · next agent _ => exact Or.inl ⟨agent, rfl⟩
    · exact Or.inr (Or.inl rfl)
  · exact Or.inr (Or.inr rfl)

theorem nightAnswer_cases (p : Platform) (t : RouteTables) :
    (nightAnswer p t).1 = 6 ∨ nightAnswer p t = (7, []) := by
  unfold nightAnswer
  rcases nightDecision_cases p t with ⟨agent, h⟩ | h | h
  · rw [h]
    exact Or.inl rfl
  · rw [h]
    exact Or.inl rfl
  · rw [h]
    exact Or.inr rfl

theorem NightFollows.follows {r : Except LuaError Answer} (h : NightFollows p t r) (now : Int)
    (callerId : Option CStr) : Follows p t now callerId (nightDecision p t) r t := by
  unfold NightFollows nightAnswer at h
  rcases nightDecision_cases p t with ⟨agent, hd⟩ | hd | hd
  · rw [hd] at h ⊢
    exact ⟨h, rfl⟩
  · rw [hd] at h ⊢
    exact ⟨h, rfl⟩
  · rw [hd] at h ⊢
    exact ⟨h, rfl⟩

/-- The answer at night, unless the time cannot be described. -/
theorem nightRoute_at {s : RouteState} (hs : s.tables = t) :
    Runs (nightRoute p) s fun r s' =>
      s'.tables = t ∧
        match workTimeAt t (p.date (p.clock (s.reads + 1))) with
        | .error e => r = .error e
        | .ok _ => Answers r (nightAnswer p t).1 (nightAnswer p t).2 := by
  subst hs
  unfold nightRoute nightAnswer nightDecision
  apply Runs.bind (getTimeDescription_at p s)
  · rintro time s₁ ⟨hsame, hfails⟩
    cases hwork : workTimeAt s.tables (p.date (p.clock (s.reads + 1))) with
    | error e => cases (hfails e).mpr hwork
    | ok work =>
      dsimp only
      apply Runs.bind_ok (outcome_getTables s₁)
      rw [hsame]
      by_cases hduty : (getDeptAgents s.tables.agents s.tables.config.nightDutyDept).any
          (fun a => a.state = .idle || a.state = .talking) = true
      · apply Runs.if_pos hduty
        rw [if_pos hduty]
        obtain ⟨dept, hdept⟩ := department_isSome hduty
        rw [hdept]
        cases pickIdleAgent p s.tables.agents s.tables.config.nightDutyDept with
        | some agent => exact Runs.of_eq rfl ⟨hsame, answers_makeResponse _ _ _ _⟩
        | none => exact Runs.of_eq rfl ⟨hsame, answers_makeResponse _ _ _ _⟩
      · apply Runs.if_neg hduty
        rw [if_neg hduty]
        exact Runs.of_eq rfl ⟨hsame, answers_makeResponse _ _ _ _⟩
  · rintro e s₁ ⟨hsame, hfails⟩
    refine ⟨hsame, ?_⟩
    rw [(hfails e).mp rfl]

theorem nightRoute_runs {s : RouteState} (hs : s.tables = t) :
    Runs (nightRoute p) s fun r s' => NightFollows p t r ∧ s'.tables = t := by
  apply Runs.mono (nightRoute_at hs)
  rintro r s' ⟨hsame, hanswer⟩
  refine ⟨?_, hsame⟩
  cases hwork : workTimeAt t (p.date (p.clock (s.reads + 1))) with
  | error e =>
    rw [hwork] at hanswer
    exact Or.inr ⟨e, ⟨_, ⟨_, rfl⟩, hwork⟩, hanswer⟩
  | ok work =>
    rw [hwork] at hanswer
    exact Or.inl hanswer

theorem timeJudgeRoute_runs {s : RouteState} (hs : s.tables = t) :
    Runs (timeJudgeRoute p) s fun r s' =>
      s'.tables = t ∧
        match workTimeAt t (p.date (p.clock s.reads)) with
        | .error e => r = .error e
        | .ok true => Answers r 0 []
        | .ok false => NightFollows p t r := by
  subst hs
  unfold timeJudgeRoute
  apply Runs.bind (isWorkTime_runs p s)
  · rintro work s₁ ⟨htables, hwork⟩
    cases work with
    | true =>
      refine Runs.of_eq rfl ⟨htables, ?_⟩
      rw [← hwork]
      exact answers_makeResponse _ _ _ _
    | false =>
      apply Runs.mono (nightRoute_runs htables)
      rintro r s' ⟨hanswer, hsame⟩
      refine ⟨hsame, ?_⟩
      rw [← hwork]
      exact hanswer
  · rintro e s₁ ⟨htables, hwork⟩
    refine ⟨htables, ?_⟩
    rw [← hwork]

/-- **`route_call` of an external caller** does what it decides. -/
theorem routeCall_follows {callerId : Option CStr} (hexternal : isExternalCaller callerId = true)
    (digits : Option CStr) (s : RouteState) :
    Runs (routeCall p callerId digits) s fun r s' =>
      ∃ now, p.Reads now ∧
        Follows p s.tables now callerId (callDecision p s now callerId digits) r s'.tables := by
  have hany : p.Reads (p.clock 0) := ⟨0, rfl⟩
  unfold routeCall callDecision decision
  apply Runs.if_pos hexternal
  apply Runs.bind (timeJudgeRoute_runs rfl)
  · rintro judged s₁ ⟨hsame, hjudged⟩
    cases hwork : workTimeAt s.tables (p.date (p.clock s.reads)) with
    | error e =>
      rw [hwork] at hjudged
      cases hjudged
    | ok work =>
      rw [hwork] at hjudged
      cases work with
      | true =>
        obtain ⟨_, ⟨⟩, hcode, -⟩ := hjudged
        simp only [hcode]
        exact Runs.mono (getIvrRoute_follows callerId digits hsame)
          fun r s' h => ⟨_, ⟨_, rfl⟩, h⟩
      | false =>
        -- a voicemail answer is written anew, with the time again
        have hanswer : judged.code = (nightAnswer p s.tables).1 := by
          rcases hjudged with ⟨_, ⟨⟩, hcode, -⟩ | ⟨_, -, h⟩
          · exact hcode
          · cases h
        rcases nightAnswer_cases p s.tables with hsix | hseven
        · rw [hsix] at hanswer
          simp only [hanswer]
          refine Runs.of_eq rfl ⟨p.clock 0, hany, ?_⟩
          rw [hsame]
          exact hjudged.follows _ callerId
        · rw [hseven] at hanswer
          simp only [hanswer]
          have hfollows : ∀ r, NightAnswers p s.tables r 7 [] →
              Follows p s.tables (p.clock 0) callerId (nightDecision p s.tables) r s.tables := by
            intro r h
            apply NightFollows.follows
            rw [NightFollows, hseven]
            exact h
          apply Runs.bind (getTimeDescription_runs p s₁)
          · rintro time s₂ ⟨hsame', -⟩
            refine Runs.of_eq rfl ⟨p.clock 0, hany, ?_⟩
            rw [hsame', hsame]
            exact hfollows _ (Or.inl (answers_makeResponse _ _ _ _))
          · rintro e s₂ ⟨hsame', hfails⟩
            rw [hsame] at hfails
            refine ⟨p.clock 0, hany, ?_⟩
            rw [hsame', hsame]
            exact hfollows _ (Or.inr ⟨e, hfails e rfl, rfl⟩)
  · rintro e s₁ ⟨hsame, hjudged⟩
    refine ⟨p.clock 0, hany, ?_⟩
    rw [hsame]
    cases hwork : workTimeAt s.tables (p.date (p.clock s.reads)) with
    | error e' =>
      rw [hwork] at hjudged
      exact ⟨hjudged, rfl⟩
    | ok work =>
      rw [hwork] at hjudged
      cases work with
      | true =>
        obtain ⟨_, h, -⟩ := hjudged
        cases h
      | false => exact hjudged.follows _ callerId

end Route
