import CallCenter.Route.Policy

/-! # The Way of a Key

    `get_ivr_route` with the key of a department: an idle agent there, the
    fallback number, an idle agent elsewhere, the queue or the voicemail.

    The policy is stated in its own terms (`KeyPolicy`): who is idle, who was
    active least recently, who waits.  The decisions of `get_ivr_route` are
    read in these terms one by one, and `key_policy` puts them together. -/

namespace Route

open CFormat Lua Script

/-! ## Section 1: The documented policy -/

/-- An idle agent of the department, active no later than the others. -/
structure LeastRecent (agents : AgentTable) (deptId : CStr) (agent : Agent) : Prop where
  mem : agent ∈ getDeptAgents agents deptId
  idle : agent.state = .idle
  least : ∀ other ∈ getDeptAgents agents deptId, other.state = .idle →
    agent.lastActive ≤ other.lastActive

/-- The call is given to such an agent. -/
def GivenTo (agents : AgentTable) (r : Except LuaError Answer) (code : Int) (deptId : CStr) :
    Prop :=
  ∃ agent, LeastRecent agents deptId agent ∧ Answers r code agent.extension

/-- The order of the documentation. -/
def overflowOrder : List CStr := [cstr "support", cstr "sales", cstr "service", cstr "market"]

/-- The first department of the order with an idle agent. -/
def FirstIdle (agents : AgentTable) (deptId : CStr) : Prop :=
  ∃ before after, overflowOrder = before ++ deptId :: after ∧ HasIdle agents deptId ∧
    ∀ key ∈ before, ¬ HasIdle agents key

/-- Somebody is on line, but nobody is idle, here or elsewhere. -/
structure Exhausted (agents : AgentTable) (deptId : CStr) : Prop where
  online : ¬ DeptOffline agents deptId
  here : ¬ HasIdle agents deptId
  elsewhere : ∀ key ∈ overflowOrder, ¬ HasIdle agents key

/-- Who waits for a department. -/
def RouteTables.waiting (t : RouteTables) (deptId : CStr) : List QueueEntry :=
  (t.queue deptId).getD []

/-- Who waits and has not expired. -/
def RouteTables.unexpired (t : RouteTables) (now : Int) (deptId : CStr) : List QueueEntry :=
  (t.waiting deptId).filter fun entry => !t.config.expired now entry

/-- There is a place for one more. -/
def RouteTables.HasPlace (t : RouteTables) (now : Int) (deptId : CStr) : Prop :=
  (LuaNumber.int (t.unexpired now deptId).length).lt t.config.maxQueueSize = true

/-- The documented policy for the key of a department; `now` is the time at
    which the queues are cleaned up. -/
structure KeyPolicy (p : Platform) (t : RouteTables) (now : Int) (callerId : Option CStr)
    (deptId : CStr) (r : Except LuaError Answer) (t' : RouteTables) : Prop where
  success : HasIdle t.agents deptId → GivenTo t.agents r 0 deptId
  offline : DeptOffline t.agents deptId → Answers r 3 t.config.fallbackAgent
  fallback : ¬ HasIdle t.agents deptId → ¬ DeptOffline t.agents deptId →
    (∃ key ∈ overflowOrder, HasIdle t.agents key) →
      ∃ key, FirstIdle t.agents key ∧ GivenTo t.agents r 4 key
  queued : Exhausted t.agents deptId → t.HasPlace now deptId →
    (∃ dept, department deptId = some dept ∧ Answers r 5 dept.short) ∧
      ∃ arrival, p.Reads arrival ∧
        t'.waiting deptId = t.unexpired now deptId ++ [⟨callerId.getD [], arrival⟩]
  voicemail : Exhausted t.agents deptId → ¬ t.HasPlace now deptId →
    Answers r 7 [] ∧ t'.waiting deptId = t.unexpired now deptId
  others : ∀ key ≠ deptId, t'.waiting key = t.unexpired now key

/-! ## Section 2: Agents -/

section Agents

variable {p : Platform} {agents : AgentTable} {deptId : CStr} {agent : Agent}

/-- The head of a sorted list is its least element. -/
theorem pickIdleAgent_leastRecent (h : pickIdleAgent p agents deptId = some agent) :
    LeastRecent agents deptId agent := by
  obtain ⟨hmem, hidle⟩ := pickIdleAgent_mem h
  refine ⟨hmem, hidle, fun other hother hstate => ?_⟩
  unfold pickIdleAgent at h
  dsimp only at h
  split at h
  · cases h
  · generalize hidles : (getDeptAgents agents deptId).filter (fun a => a.state = .idle) = idles
      at h
    have hother' : other ∈ p.sort idles := by
      rw [(p.sort_perm idles).mem_iff, ← hidles]
      exact List.mem_filter.mpr ⟨hother, by simpa using hstate⟩
    obtain ⟨rest, hrest⟩ := List.head?_eq_some_iff.mp h
    have hsorted := p.sorted idles
    rw [hrest] at hother' hsorted
    rcases List.mem_cons.mp hother' with rfl | hlater
    · exact le_refl _
    · exact not_lt.mp (List.rel_of_pairwise_cons hsorted hlater)

theorem HasIdle.not_allOffline (h : HasIdle agents deptId) : ¬ allOffline agents deptId := by
  obtain ⟨agent, hmem, hidle⟩ := h
  intro hoffline
  rw [allOffline_iff.mp hoffline agent hmem] at hidle
  cases hidle

end Agents

/-! ## Section 3: Queues -/

section Waiting

variable (t : RouteTables) (now : Int) (deptId : CStr)

@[simp] theorem waiting_cleanup : (t.cleanup now).waiting deptId = t.unexpired now deptId := by
  unfold RouteTables.unexpired RouteTables.waiting
  rw [cleanup_eq]
  show ((t.queue deptId).map _).getD [] = _
  cases t.queue deptId with
  | none => rfl
  | some q => rfl

@[simp] theorem waiting_openQueue (key : CStr) :
    (t.openQueue deptId).waiting key = t.waiting key := by
  unfold RouteTables.waiting
  by_cases hkey : key = deptId
  · subst hkey
    rw [openQueue_self]
    rfl
  · rw [openQueue_of_ne t deptId hkey]

@[simp] theorem waiting_enqueue (entry : QueueEntry) :
    (t.enqueue deptId entry).waiting deptId = t.waiting deptId ++ [entry] := by
  unfold RouteTables.waiting RouteTables.enqueue
  rw [setQueue_self]
  rfl

theorem waiting_enqueue_of_ne (entry : QueueEntry) {key : CStr} (hkey : key ≠ deptId) :
    (t.enqueue deptId entry).waiting key = t.waiting key := by
  unfold RouteTables.waiting RouteTables.enqueue
  rw [setQueue_of_ne t deptId _ hkey]

theorem queueFull_cleanup :
    (t.cleanup now).queueFull deptId =
      t.config.maxQueueSize.le (.int (t.unexpired now deptId).length) := by
  show t.config.maxQueueSize.le (.int ((t.cleanup now).waiting deptId).length) = _
  rw [waiting_cleanup]

variable {t now deptId}

theorem RouteTables.HasPlace.not_full (h : t.HasPlace now deptId) :
    (t.cleanup now).queueFull deptId = false := by
  rw [queueFull_cleanup]
  by_contra hfull
  rw [Bool.not_eq_false] at hfull
  have hnone := int_lt_of_le_int (le_refl _) hfull
  rw [RouteTables.HasPlace, hnone] at h
  cases h

theorem RouteTables.full_of_not_hasPlace (hmax : t.config.maxQueueSize.toInteger?.isSome)
    (h : ¬ t.HasPlace now deptId) : (t.cleanup now).queueFull deptId = true := by
  rw [queueFull_cleanup]
  exact le_int_of_toInteger hmax (Bool.eq_false_of_not_eq_true h)

end Waiting

/-! ## Section 4: Decisions -/

section Decisions

variable {t : RouteTables} {now : Int} {callerId : Option CStr} {key deptId : CStr}

theorem ivrMap_ne_nil (h : ivrMap key = some deptId) : key ≠ [] := by
  rintro rfl
  cases h.symm.trans (by decide +kernel : ivrMap [] = none)

theorem ivrDecision_key (hkey : ivrMap key = some deptId) :
    ivrDecision t now callerId (some key) =
      if allOffline t.agents deptId then .offline
      else if countIdleAgents t.agents deptId = 0 then overflowDecision t now deptId
      else .agentOf deptId := by
  unfold ivrDecision
  rw [Option.getD_some, if_neg (ivrMap_ne_nil hkey), hkey]

theorem ivrDecision_idle (hkey : ivrMap key = some deptId) (h : HasIdle t.agents deptId) :
    ivrDecision t now callerId (some key) = .agentOf deptId := by
  have hcount := hasIdle_iff.mp h
  rw [ivrDecision_key hkey, if_neg h.not_allOffline, if_neg (by omega)]

theorem ivrDecision_offline (hkey : ivrMap key = some deptId) (h : DeptOffline t.agents deptId) :
    ivrDecision t now callerId (some key) = .offline := by
  rw [ivrDecision_key hkey, if_pos (allOffline_iff.mpr h)]

theorem ivrDecision_busy (hkey : ivrMap key = some deptId) (hidle : ¬ HasIdle t.agents deptId)
    (hoffline : ¬ DeptOffline t.agents deptId) :
    ivrDecision t now callerId (some key) = overflowDecision t now deptId := by
  rw [hasIdle_iff] at hidle
  rw [ivrDecision_key hkey, if_neg (fun h => hoffline (allOffline_iff.mp h)),
    if_pos (by omega)]

/-- The department of the key has no idle agent, so leaving it out changes
    nothing. -/
theorem findOverflowDept_busy (hpriority : t.config.overflowPriority = overflowOrder)
    (hidle : ¬ HasIdle t.agents deptId) :
    (findOverflowDept t deptId).map Prod.snd =
      overflowOrder.find? fun key => 0 < countIdleAgents t.agents key := by
  rw [hasIdle_iff] at hidle
  have hsame : (fun key => key ≠ deptId && 0 < countIdleAgents t.agents key : CStr → Bool) =
      fun key => 0 < countIdleAgents t.agents key := by
    funext key
    by_cases hkey : key = deptId
    · subst hkey
      simp [hidle]
    · simp [hkey]
  unfold findOverflowDept
  rw [hpriority, hsame]
  cases hfind : overflowOrder.find? fun key => 0 < countIdleAgents t.agents key with
  | none => rfl
  | some key =>
    -- a department with an idle agent is known
    have hcount := List.find?_some hfind
    obtain ⟨agent, hmem, -⟩ := hasIdle_iff.mpr (by simpa using hcount)
    obtain ⟨dept, -, hdept, -⟩ := mem_getDeptAgents.mp hmem
    dsimp only
    rw [hdept]
    rfl

theorem firstIdle_of_find {agents : AgentTable}
    (h : (overflowOrder.find? fun key => 0 < countIdleAgents agents key) = some key) :
    FirstIdle agents key := by
  obtain ⟨hcount, before, after, horder, hbefore⟩ := List.find?_eq_some_iff_append.mp h
  refine ⟨before, after, horder, hasIdle_iff.mpr (by simpa using hcount), fun other hother => ?_⟩
  rw [hasIdle_iff]
  simpa using hbefore other hother

/-- The overflow goes to the first department of the order. -/
theorem overflowDecision_first (hpriority : t.config.overflowPriority = overflowOrder)
    (hidle : ¬ HasIdle t.agents deptId) (helse : ∃ key ∈ overflowOrder, HasIdle t.agents key) :
    ∃ key, FirstIdle t.agents key ∧ overflowDecision t now deptId = .overflowTo key := by
  obtain ⟨key, hkey⟩ :
      ∃ key, (overflowOrder.find? fun key => 0 < countIdleAgents t.agents key) = some key := by
    rw [← Option.isSome_iff_exists, List.find?_isSome]
    obtain ⟨key, hmem, hkey⟩ := helse
    exact ⟨key, hmem, by simpa using hasIdle_iff.mp hkey⟩
  refine ⟨key, firstIdle_of_find hkey, ?_⟩
  unfold overflowDecision
  by_cases hsupport : 0 < countIdleAgents t.agents (cstr "support")
  · rw [if_pos hsupport]
    -- support is the first of the order
    rw [overflowOrder, List.find?_cons_of_pos (by simpa using hsupport)] at hkey
    rw [Option.some.inj hkey]
  · rw [if_neg hsupport]
    rw [← findOverflowDept_busy hpriority hidle] at hkey
    obtain ⟨⟨dept, found⟩, hfind, rfl⟩ := Option.map_eq_some_iff.mp hkey
    rw [hfind]

theorem overflowDecision_exhausted (hpriority : t.config.overflowPriority = overflowOrder)
    (h : Exhausted t.agents deptId) :
    overflowDecision t now deptId =
      if (t.cleanup now).queueFull deptId then .queueFull deptId else .queued deptId := by
  have hnone : ∀ key ∈ overflowOrder, ¬ 0 < countIdleAgents t.agents key :=
    fun key hkey hcount => h.elsewhere key hkey (hasIdle_iff.mpr hcount)
  have hfind : findOverflowDept t deptId = none := by
    rw [← Option.map_eq_none_iff, findOverflowDept_busy hpriority h.here, List.find?_eq_none]
    simpa using hnone
  unfold overflowDecision
  rw [if_neg (hnone _ List.mem_cons_self), hfind]

end Decisions

/-! ## Section 5: The way of a key -/

section KeyPolicy

variable {p : Platform} {t t' : RouteTables} {now : Int} {callerId : Option CStr}
  {key deptId : CStr} {r : Except LuaError Answer}

theorem Follows.others {d : Decision} (hd : d.AtDept deptId)
    (h : Follows p t now callerId d r t') (hkey : key ≠ deptId) :
    t'.waiting key = t.unexpired now key := by
  cases d with
  | offline | agentOf _ | overflowTo _ =>
    rw [h.2]
    exact waiting_cleanup t now key
  | queued other =>
    obtain rfl : other = deptId := hd
    obtain ⟨-, arrival, -, htables⟩ := h
    rw [htables, waiting_enqueue_of_ne _ _ _ hkey, waiting_cleanup]
  | queueFull other =>
    obtain rfl : other = deptId := hd
    rw [h.2, waiting_openQueue, waiting_cleanup]
  | _ => exact hd.elim

theorem Follows.keyPolicy (hkey : ivrMap key = some deptId)
    (hpriority : t.config.overflowPriority = overflowOrder)
    (hmax : t.config.maxQueueSize.toInteger?.isSome)
    (h : Follows p t now callerId (ivrDecision t now callerId (some key)) r t') :
    KeyPolicy p t now callerId deptId r t' where
  success := by
    intro hidle
    rw [ivrDecision_idle hkey hidle] at h
    obtain ⟨⟨agent, hpick, hanswer⟩, -⟩ := h
    exact ⟨agent, pickIdleAgent_leastRecent hpick, hanswer⟩
  offline := by
    intro hoffline
    rw [ivrDecision_offline hkey hoffline] at h
    exact h.1
  fallback := by
    intro hidle hoffline helse
    obtain ⟨first, hfirst, hdecision⟩ := overflowDecision_first hpriority hidle helse
    rw [ivrDecision_busy hkey hidle hoffline, hdecision] at h
    obtain ⟨⟨agent, hpick, hanswer⟩, -⟩ := h
    exact ⟨first, hfirst, agent, pickIdleAgent_leastRecent hpick, hanswer⟩
  queued := by
    intro hexhausted hplace
    rw [ivrDecision_busy hkey hexhausted.here hexhausted.online,
      overflowDecision_exhausted hpriority hexhausted, hplace.not_full] at h
    obtain ⟨⟨dept, hdept, hanswer⟩, arrival, hread, htables⟩ := h
    obtain ⟨n, hn⟩ := Option.isSome_iff_exists.mp hmax
    unfold AnswersWith at hanswer
    rw [hn] at hanswer
    refine ⟨⟨dept, hdept, hanswer⟩, arrival, hread, ?_⟩
    rw [htables, waiting_enqueue, waiting_cleanup]
  voicemail := by
    intro hexhausted hplace
    rw [ivrDecision_busy hkey hexhausted.here hexhausted.online,
      overflowDecision_exhausted hpriority hexhausted,
      RouteTables.full_of_not_hasPlace hmax hplace] at h
    obtain ⟨hanswer, htables⟩ := h
    refine ⟨hanswer, ?_⟩
    rw [htables, waiting_openQueue, waiting_cleanup]
  others := by
    intro other hother
    have hdept : (ivrDecision t now callerId (some key)).AtDept deptId :=
      ivrDecision_atDept (ivrMap_ne_nil hkey) hkey
    exact h.others hdept hother

end KeyPolicy

/-- **The way of a key**: a valid key leads through the documented policy, if
    the size of the queues is a number with an integer. -/
theorem key_policy (p : Platform) (s : RouteState) {key deptId : CStr} (callerId : Option CStr)
    (hkey : ivrMap key = some deptId)
    (hpriority : s.tables.config.overflowPriority = RouteConfig.default.overflowPriority)
    (hmax : s.tables.config.maxQueueSize.toInteger?.isSome) :
    KeyPolicy p s.tables (p.clock (s.reads + 1)) callerId deptId
      (outcome (getIvrRoute p callerId (some key)) s).1
      (outcome (getIvrRoute p callerId (some key)) s).2.tables :=
  (getIvrRoute_follows callerId (some key) rfl).keyPolicy hkey hpriority hmax

/-- A caller who asks for a supporter after a load. -/
theorem key_policy_loaded :
    GivenTo (loadedState mondayMorning 0).tables.agents
      (outcome (getIvrRoute mondayMorning none (some (cstr "0"))) (loadedState mondayMorning 0)).1
      0 (cstr "support") := by
  have hconfig := (loadedState_fresh mondayMorning 0).config
  have hpolicy := key_policy mondayMorning (loadedState mondayMorning 0) none
    (by decide +kernel : ivrMap (cstr "0") = some (cstr "support"))
    (by rw [hconfig]) (by rw [hconfig]; rfl)
  exact hpolicy.success (loaded_supporter mondayMorning 0)

/-- Without an integer the caller is queued and not answered. -/
theorem getIvrRoute_raises (p : Platform) {s : RouteState} {key deptId : CStr}
    (callerId : Option CStr) (hkey : ivrMap key = some deptId)
    (hpriority : s.tables.config.overflowPriority = overflowOrder)
    (hmax : s.tables.config.maxQueueSize.toInteger? = none)
    (hexhausted : Exhausted s.tables.agents deptId)
    (hplace : s.tables.HasPlace (p.clock (s.reads + 1)) deptId) :
    (outcome (getIvrRoute p callerId (some key)) s).1 = .error .noInteger := by
  have hfollows := getIvrRoute_follows (p := p) (s := s) callerId (some key) rfl
  unfold Runs at hfollows
  rw [ivrDecision_busy hkey hexhausted.here hexhausted.online,
    overflowDecision_exhausted hpriority hexhausted, hplace.not_full] at hfollows
  obtain ⟨⟨dept, -, hanswer⟩, -⟩ := hfollows
  unfold AnswersWith at hanswer
  rw [hmax] at hanswer
  exact hanswer

/-- Queues of two and a half places. -/
def halfConfig : RouteConfig :=
  { RouteConfig.default with maxQueueSize := .float (.finite (5 / 2)) }

/-- All agents are busy, and there is a place in every queue. -/
def halfState : RouteState :=
  (busyState mondayMorning).withTables
    { RouteTables.declared with
      config := halfConfig
      agents := (busyState mondayMorning).tables.agents }

theorem halfState_exhausted : Exhausted halfState.tables.agents (cstr "support") := by
  have hidle : ∀ key, ¬ HasIdle halfState.tables.agents key := by
    rintro key ⟨agent, hmem, hstate⟩
    cases (busyState_busy hmem).symm.trans hstate
  refine ⟨fun hoffline => ?_, hidle _, fun key _ => hidle key⟩
  obtain ⟨agent, hmem, hbusy⟩ := busyState_supporter mondayMorning
  cases hbusy.symm.trans (hoffline agent hmem)

/-- Somebody is queued, but the answer shows the size of the queue with `%d`. -/
theorem key_policy_fraction :
    ¬ ∀ (p : Platform) (s : RouteState) (key deptId : CStr) (callerId : Option CStr),
      ivrMap key = some deptId →
      s.tables.config.overflowPriority = RouteConfig.default.overflowPriority →
        KeyPolicy p s.tables (p.clock (s.reads + 1)) callerId deptId
          (outcome (getIvrRoute p callerId (some key)) s).1
          (outcome (getIvrRoute p callerId (some key)) s).2.tables := by
  intro h
  have hkey : ivrMap (cstr "0") = some (cstr "support") := by decide +kernel
  have hplace : ∀ now, halfState.tables.HasPlace now (cstr "support") := by
    intro now
    have hempty : halfState.tables.unexpired now (cstr "support") = [] := rfl
    unfold RouteTables.HasPlace
    rw [hempty]
    show (LuaNumber.int 0).lt halfConfig.maxQueueSize = true
    decide +kernel
  have hpriority : halfState.tables.config.overflowPriority = overflowOrder := rfl
  have hmax : halfState.tables.config.maxQueueSize.toInteger? = none := by
    show halfConfig.maxQueueSize.toInteger? = none
    decide +kernel
  have hpolicy := h mondayMorning halfState (cstr "0") (cstr "support") none hkey hpriority
  obtain ⟨⟨dept, -, a, ha, -⟩, -⟩ := hpolicy.queued halfState_exhausted (hplace _)
  have hraises := getIvrRoute_raises mondayMorning none hkey hpriority hmax halfState_exhausted
    (hplace _)
  cases ha.symm.trans hraises

end Route
