import CallCenter.Route.Decision

/-! # Where External Callers Get To

    `route_call` does not check in one place which departments an external
    caller may reach: every path chooses a target of its own.  No path leads
    to a department that is not external, if the configuration names none
    (`external_target`).

    An answer that shows a number of the configuration needs one with an
    integer value, and the time needs all of `work_hours`; else the script
    raises an error (`external_raises`). -/

namespace Route

open CFormat Lua Script

/-! ## Section 1: Targets -/

def IsExternal (deptKey : CStr) : Prop :=
  ∃ dept, department deptKey = some dept ∧ dept.external = true

/-- Nobody, the fallback number, or the short number or an extension of an
    external department. -/
def ExternalTarget (config : RouteConfig) (target : CStr) : Prop :=
  target = [] ∨ target = config.fallbackAgent ∨
    ∃ key dept, department key = some dept ∧ dept.external = true ∧
      (target = dept.short ∨
        ∃ ext, dept.rangeStart ≤ ext ∧ ext ≤ dept.rangeEnd ∧ target = natText ext)

/-- The configuration names no department that is not external. -/
def RouteConfig.ExternalOnly (config : RouteConfig) : Prop :=
  ∀ key, key ∈ config.overflowPriority ∨ key = config.nightDutyDept →
    ∀ dept, department key = some dept → dept.external = true

/-- All of `work_hours` is there, and the numbers that answers show have
    integer values. -/
structure RouteConfig.Printable (config : RouteConfig) : Prop where
  startHour : config.workHours.startHour.isSome
  startMinute : config.workHours.startMinute.isSome
  endHour : config.workHours.endHour.isSome
  endMinute : config.workHours.endMinute.isSome
  ivrTimeout : config.ivrTimeout.toInteger?.isSome
  maxInvalidKeys : config.maxInvalidKeys.toInteger?.isSome
  maxQueueSize : config.maxQueueSize.toInteger?.isSome

theorem externalTarget_pick {p : Platform} {config : RouteConfig} {agents : AgentTable}
    {key : CStr} {agent : Agent} (hpick : pickIdleAgent p agents key = some agent)
    (hkey : ∀ dept, department key = some dept → dept.external = true) :
    ExternalTarget config agent.extension := by
  obtain ⟨dept, ext, hdept, hlo, hhi, hlookup⟩ :=
    mem_getDeptAgents.mp (pickIdleAgent_mem hpick).1
  -- an agent stands under its own extension, so the target is in the range
  have hext := agents.extension_eq _ _ hlookup
  exact Or.inr (Or.inr ⟨key, dept, hdept, hkey dept hdept, Or.inr ⟨ext, hlo, hhi, hext⟩⟩)

theorem support_external :
    ∀ dept, department (cstr "support") = some dept → dept.external = true := by
  decide +kernel

theorem externalTarget_support (p : Platform) (t : RouteTables) :
    ExternalTarget t.config (t.supportTarget p) := by
  unfold RouteTables.supportTarget
  cases hpick : pickIdleAgent p t.agents (cstr "support") with
  | none => exact Or.inr (Or.inl rfl)
  | some agent => exact externalTarget_pick hpick support_external

/-! ## Section 2: Decisions -/

/-- The departments that a decision names are external. -/
def Decision.IsExternal (p : Platform) (t : RouteTables) : Decision → Prop
  | .nightAgent agent => pickIdleAgent p t.agents t.config.nightDutyDept = some agent
  | .agentOf key | .overflowTo key | .queued key =>
    ∀ dept, department key = some dept → dept.external = true
  | _ => True

theorem overflowDecision_isExternal (p : Platform) {t : RouteTables}
    (hconfig : t.config.ExternalOnly) (now : Int) {deptKey : CStr}
    (hkey : ∀ dept, department deptKey = some dept → dept.external = true) :
    (overflowDecision t now deptKey).IsExternal p t := by
  unfold overflowDecision
  split
  · exact support_external
  · split
    · next dept key hfind =>
      -- the list may name any department; the configuration rules that out
      exact hconfig key (Or.inl (findOverflowDept_some hfind).1)
    · split
      · trivial
      · exact hkey

theorem decision_isExternal (p : Platform) {t : RouteTables} (hconfig : t.config.ExternalOnly)
    (work : Except LuaError Bool) (now : Int) (callerId digits : Option CStr) :
    (decision p t work now callerId digits).IsExternal p t := by
  cases work with
  | error e => trivial
  | ok work =>
    cases work with
    | false =>
      show (nightDecision p t).IsExternal p t
      unfold nightDecision
      split
      · split
        · next agent hpick => exact hpick
        · trivial
      · trivial
    | true =>
      show (ivrDecision t now callerId digits).IsExternal p t
      unfold ivrDecision
      split
      · split <;> trivial
      · split
        · split <;> trivial
        · next deptKey hmap =>
          obtain ⟨dept, hdept, hexternal⟩ := ivrMap_department hmap
          -- all departments with a key are external, whatever the configuration
          have hkey : ∀ d, department deptKey = some d → d.external = true := by
            intro d hd
            rw [hdept] at hd
            rw [← Option.some.inj hd]
            exact hexternal
          split
          · trivial
          · split
            · exact overflowDecision_isExternal p hconfig now hkey
            · exact hkey

theorem Answers.target {a : Answer} {code : Int} {target : CStr}
    (h : Answers (.ok a) code target) : a.target = target := by
  obtain ⟨b, hb, -, htarget⟩ := h
  rw [Except.ok.inj hb]
  exact htarget

/-- No error, so the clock did not fail. -/
theorem NightAnswers.answers {p : Platform} {t : RouteTables} {a : Answer} {code : Int}
    {target : CStr} (h : NightAnswers p t (.ok a) code target) :
    Answers (.ok a) code target := by
  rcases h with h | ⟨e, -, h⟩
  · exact h
  · cases h

theorem AnswersWith.answers {v : LuaNumber} {a : Answer} {code : Int} {target : CStr}
    (h : AnswersWith v (.ok a) code target) : Answers (.ok a) code target := by
  unfold AnswersWith at h
  split at h
  · exact h
  · cases h

/-- The target of an answer that follows an external decision. -/
theorem Follows.externalTarget {p : Platform} {t t' : RouteTables}
    (hconfig : t.config.ExternalOnly) {now : Int} {callerId : Option CStr} {d : Decision}
    {a : Answer} (hd : d.IsExternal p t) (h : Follows p t now callerId d (.ok a) t') :
    ExternalTarget t.config a.target := by
  cases d with
  | clockError e => cases h.1
  | nightAgent agent =>
    rw [h.1.answers.target]
    exact externalTarget_pick hd (hconfig _ (Or.inr rfl))
  | nightFallback => exact Or.inr (Or.inl h.1.answers.target)
  | nightVoicemail => exact Or.inl h.1.answers.target
  | timeoutRetry => exact Or.inl h.1.answers.target
  | timeoutEscalation =>
    rw [h.1.target]
    exact externalTarget_support p t
  | keyRetry => exact Or.inl h.1.answers.target
  | keyEscalation =>
    rw [h.1.target]
    exact externalTarget_support p t
  | offline => exact Or.inr (Or.inl h.1.target)
  | agentOf key =>
    obtain ⟨⟨agent, hpick, hanswer⟩, -⟩ := h
    rw [hanswer.target]
    exact externalTarget_pick hpick hd
  | overflowTo key =>
    obtain ⟨⟨agent, hpick, hanswer⟩, -⟩ := h
    rw [hanswer.target]
    exact externalTarget_pick hpick hd
  | queued key =>
    obtain ⟨⟨dept, hdept, hanswer⟩, -⟩ := h
    rw [hanswer.answers.target]
    exact Or.inr (Or.inr ⟨key, dept, hdept, hd dept hdept, Or.inl rfl⟩)
  | queueFull key => exact Or.inl h.1.target

/-! ## Section 3: Errors -/

theorem workTimeAt_ok {t : RouteTables} (hconfig : t.config.Printable) (now : Date)
    (e : LuaError) : workTimeAt t now ≠ .error e := by
  obtain ⟨startHour, hstart⟩ := Option.isSome_iff_exists.mp hconfig.startHour
  obtain ⟨startMinute, hstart'⟩ := Option.isSome_iff_exists.mp hconfig.startMinute
  obtain ⟨endHour, hend⟩ := Option.isSome_iff_exists.mp hconfig.endHour
  obtain ⟨endMinute, hend'⟩ := Option.isSome_iff_exists.mp hconfig.endMinute
  have hhours : t.config.workHours =
      ⟨some startHour, some startMinute, some endHour, some endMinute⟩ := by
    rw [← hstart, ← hstart', ← hend, ← hend']
  unfold workTimeAt
  rw [hhours]
  dsimp only
  split_ifs <;> nofun

theorem Answers.ok {r : Except LuaError Answer} {code : Int} {target : CStr}
    (h : Answers r code target) : ∃ a, r = .ok a := by
  obtain ⟨a, hr, -⟩ := h
  exact ⟨a, hr⟩

theorem AnswersWith.ok {v : LuaNumber} {r : Except LuaError Answer} {code : Int}
    {target : CStr} (h : AnswersWith v r code target) (hv : v.toInteger?.isSome) :
    ∃ a, r = .ok a := by
  unfold AnswersWith at h
  split at h
  · exact h.ok
  · next hnone =>
    rw [hnone] at hv
    cases hv

theorem NightAnswers.ok {p : Platform} {t : RouteTables} {r : Except LuaError Answer}
    {code : Int} {target : CStr} (h : NightAnswers p t r code target)
    (hconfig : t.config.Printable) : ∃ a, r = .ok a := by
  rcases h with h | ⟨e, ⟨now, -, hfails⟩, -⟩
  · exact h.ok
  · exact absurd hfails (workTimeAt_ok hconfig _ e)

/-- With a printable configuration every decision leads to an answer. -/
theorem Follows.ok {p : Platform} {t t' : RouteTables} (hconfig : t.config.Printable) {now : Int}
    {callerId : Option CStr} {d : Decision} {r : Except LuaError Answer}
    (hd : ∀ e, d ≠ .clockError e) (h : Follows p t now callerId d r t') : ∃ a, r = .ok a := by
  cases d with
  | clockError e => exact absurd rfl (hd e)
  | nightAgent | nightFallback | nightVoicemail => exact h.1.ok hconfig
  | timeoutRetry => exact h.1.ok hconfig.ivrTimeout
  | keyRetry => exact h.1.ok hconfig.maxInvalidKeys
  | timeoutEscalation | keyEscalation | offline | queueFull => exact h.1.ok
  | agentOf | overflowTo =>
    obtain ⟨⟨agent, -, hanswer⟩, -⟩ := h
    exact hanswer.ok
  | queued =>
    obtain ⟨⟨dept, -, hanswer⟩, -⟩ := h
    exact hanswer.ok hconfig.maxQueueSize

theorem decision_ne_clockError {p : Platform} {t : RouteTables} {work : Except LuaError Bool}
    (hwork : ∀ e, work ≠ .error e) (now : Int) (callerId digits : Option CStr) (e : LuaError) :
    decision p t work now callerId digits ≠ .clockError e := by
  cases work with
  | error e' => exact absurd rfl (hwork e')
  | ok work =>
    cases work with
    | false =>
      show nightDecision p t ≠ _
      rcases nightDecision_cases p t with ⟨agent, h⟩ | h | h <;> rw [h] <;> nofun
    | true =>
      show ivrDecision t now callerId digits ≠ _
      unfold ivrDecision overflowDecision
      repeat' split
      all_goals nofun

/-! ## Section 4: External callers -/

/-- **An external caller** gets to nobody, to the fallback number or to an
    external department, and is always answered if the configuration is
    printable. -/
theorem external_target (p : Platform) (s : RouteState) {callerId : Option CStr}
    (hexternal : isExternalCaller callerId = true) (digits : CStr)
    (hconfig : s.tables.config.ExternalOnly) :
    (s.tables.config.Printable →
      ∃ a, (outcome (routeCall p callerId (some digits)) s).1 = .ok a) ∧
    ∀ a, (outcome (routeCall p callerId (some digits)) s).1 = .ok a →
      ExternalTarget s.tables.config a.target := by
  obtain ⟨now, -, hfollows⟩ := routeCall_follows (p := p) hexternal (some digits) s
  constructor
  · intro hprintable
    refine hfollows.ok hprintable ?_
    exact decision_ne_clockError (workTimeAt_ok hprintable _) now callerId _
  · intro a ha
    rw [ha] at hfollows
    exact hfollows.externalTarget hconfig (decision_isExternal p hconfig _ now callerId _)

theorem default_externalOnly : RouteConfig.default.ExternalOnly := by
  have hall : ∀ key ∈ RouteConfig.default.nightDutyDept :: RouteConfig.default.overflowPriority,
      ∀ dept, department key = some dept → dept.external = true := by decide +kernel
  rintro key (hkey | rfl)
  · exact hall key (List.mem_cons_of_mem _ hkey)
  · exact hall _ List.mem_cons_self

theorem default_printable : RouteConfig.default.Printable := by
  constructor <;> rfl

/-- The declarations of the script, at a time that counts as working time. -/
def workingState (config : RouteConfig) : RouteState where
  tables := { RouteTables.declared with forceWorktime := true, config := config }
  callLog := fun _ => none
  callLogIndex := 0
  reads := 0

/-- A caller from outside who presses 1. -/
theorem external_target_sales :
    ∃ a, (outcome (routeCall (.steady 0 ⟨2, 9, 0⟩) (some (cstr "4001")) (some (cstr "1")))
        (workingState .default)).1 = .ok a ∧ ExternalTarget .default a.target := by
  have hcaller : isExternalCaller (some (cstr "4001")) = true := by decide +kernel
  have h := external_target (.steady 0 ⟨2, 9, 0⟩) (workingState .default) hcaller (cstr "1")
    default_externalOnly
  obtain ⟨a, ha⟩ := h.1 default_printable
  exact ⟨a, ha, h.2 a ha⟩

/-- A timeout of two and a half seconds. -/
def fractionalConfig : RouteConfig :=
  { RouteConfig.default with ivrTimeout := .float (.finite (5 / 2)) }

/-- A caller from outside who presses nothing is told the timeout, with `%d`. -/
theorem external_raises :
    ¬ ∀ (p : Platform) (s : RouteState) (callerId : Option CStr) (digits : CStr),
      isExternalCaller callerId = true → s.tables.config.ExternalOnly →
        ∃ a, (outcome (routeCall p callerId (some digits)) s).1 = .ok a ∧
          ExternalTarget s.tables.config a.target := by
  intro h
  obtain ⟨a, ha, -⟩ := h (.steady 0 ⟨2, 9, 0⟩) (workingState fractionalConfig)
    (some (cstr "4001")) [] (by decide +kernel) default_externalOnly
  have hraises : (outcome (routeCall (.steady 0 ⟨2, 9, 0⟩) (some (cstr "4001")) (some []))
      (workingState fractionalConfig)).1.toBool = false := by decide +kernel
  rw [ha] at hraises
  cases hraises

end Route
