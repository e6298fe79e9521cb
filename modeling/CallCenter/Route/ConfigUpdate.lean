import CallCenter.Framework.NestedTable
import CallCenter.Route.Extensions
import CallCenter.Route.KeyPolicy

/-! # Updates of the Configuration

    `update_route_config` goes through the pairs of the table that it gets,
    and replaces the two values that have fields of their own, `work_hours`
    and `work_days`, as wholes.

    * `evaluates_iff`: the configurations under which `is_work_time` and
      `route_call` raise no error.
    * `updateConfig_iff`: the updates that keep what they do not mention and
      lead from such a configuration to another.
    * `configRun_merges`: a sequence of such updates, with any calls in
      between, is a merge of all of them. -/

namespace Route

open CFormat Lua Script Transition NestedTable

/-! ## Section 1: The configuration as a table -/

inductive ConfigKey where
  | ivrTimeout
  | externalGateway
  | fallbackAgent
  | maxInvalidKeys
  | maxQueueSize
  | queueTimeout
  | workHours
  | workDays
  | nightDutyDept
  | voicemailPrompt
  | overflowPriority
  deriving DecidableEq, Repr

/-- A field of a value of the configuration.  Only `work_hours` and `work_days`
    are set by their fields; any other value has only itself, the order in
    `overflow_priority` included. -/
inductive ConfigField where
  | self
  | startHour
  | startMinute
  | endHour
  | endMinute
  /-- From 1. -/
  | entry (n : Nat)
  deriving DecidableEq, Repr

inductive ConfigValue where
  | number (v : LuaNumber)
  | text (s : CStr)
  | flag (b : Bool)
  | order (keys : List CStr)
  deriving DecidableEq, Repr

def single (v : ConfigValue) : ConfigField → Option ConfigValue
  | .self => some v
  | _ => none

def WorkHours.fields (hours : WorkHours) : ConfigField → Option ConfigValue
  | .startHour => hours.startHour.map .number
  | .startMinute => hours.startMinute.map .number
  | .endHour => hours.endHour.map .number
  | .endMinute => hours.endMinute.map .number
  | _ => none

def dayFields (days : Nat → Option Bool) : ConfigField → Option ConfigValue
  | .entry day => (days day).map .flag
  | _ => none

def RouteConfig.table (config : RouteConfig) : Table ConfigKey ConfigField ConfigValue
  | .ivrTimeout => single (.number config.ivrTimeout)
  | .externalGateway => single (.text config.externalGateway)
  | .fallbackAgent => single (.text config.fallbackAgent)
  | .maxInvalidKeys => single (.number config.maxInvalidKeys)
  | .maxQueueSize => single (.number config.maxQueueSize)
  | .queueTimeout => single (.number config.queueTimeout)
  | .workHours => config.workHours.fields
  | .workDays => dayFields config.workDays
  | .nightDutyDept => single (.text config.nightDutyDept)
  | .voicemailPrompt => single (.text config.voicemailPrompt)
  | .overflowPriority => single (.order config.overflowPriority)

def ConfigUpdate.tables (u : ConfigUpdate) : Update ConfigKey ConfigField ConfigValue
  | .ivrTimeout => u.ivrTimeout.map (single ∘ .number)
  | .externalGateway => u.externalGateway.map (single ∘ .text)
  | .fallbackAgent => u.fallbackAgent.map (single ∘ .text)
  | .maxInvalidKeys => u.maxInvalidKeys.map (single ∘ .number)
  | .maxQueueSize => u.maxQueueSize.map (single ∘ .number)
  | .queueTimeout => u.queueTimeout.map (single ∘ .number)
  | .workHours => u.workHours.map WorkHours.fields
  | .workDays => u.workDays.map dayFields
  | .nightDutyDept => u.nightDutyDept.map (single ∘ .text)
  | .voicemailPrompt => u.voicemailPrompt.map (single ∘ .text)
  | .overflowPriority => u.overflowPriority.map (single ∘ .order)

/-- The loop of `update_route_config` replaces whole values. -/
theorem update_table (config : RouteConfig) (u : ConfigUpdate) :
    (config.update u).table = overwrite config.table u.tables := by
  funext key
  cases key with
  | ivrTimeout | maxInvalidKeys | maxQueueSize | queueTimeout =>
    exact (Option.getD_map (single ∘ .number) _ _).symm
  | externalGateway | fallbackAgent | nightDutyDept | voicemailPrompt =>
    exact (Option.getD_map (single ∘ .text) _ _).symm
  | workHours => exact (Option.getD_map WorkHours.fields _ _).symm
  | workDays => exact (Option.getD_map dayFields _ _).symm
  | overflowPriority => exact (Option.getD_map (single ∘ .order) _ _).symm

/-! ## Section 2: Evaluation -/

/-- The dates of `os.date`. -/
structure Platform.Calendar (p : Platform) : Prop where
  wday : ∀ now, 1 ≤ (p.date now).wday ∧ (p.date now).wday ≤ 7
  hour : ∀ now, (p.date now).hour < 24
  min : ∀ now, (p.date now).min < 60

/-- In every state with this configuration `is_work_time` and `route_call`
    raise no error.  A call from inside without digits raises one whatever the
    configuration is. -/
def RouteConfig.Evaluates (config : RouteConfig) : Prop :=
  ∀ (p : Platform) (s : RouteState), p.Calendar → s.tables.config = config →
    (∃ work, (outcome (isWorkTime p) s).1 = .ok work) ∧
      ∀ callerId digits, isExternalCaller callerId = true ∨ digits.isSome →
        ∃ a, (outcome (routeCall p callerId digits) s).1 = .ok a

structure WorkHours.Complete (hours : WorkHours) : Prop where
  startHour : hours.startHour.isSome
  startMinute : hours.startMinute.isSome
  endHour : hours.endHour.isSome
  endMinute : hours.endMinute.isSome

/-- One of the seven days is a working day. -/
def HasWorkDay (days : Nat → Option Bool) : Prop := ∃ day ∈ List.range' 1 7, days day = some true

/-- A number that answers show only as long as it is above `n`. -/
def ShownAbove (n : Int) (v : LuaNumber) : Prop := v.le (.int n) = true ∨ v.toInteger?.isSome

structure RouteConfig.Sound (config : RouteConfig) : Prop where
  hours : HasWorkDay config.workDays → config.workHours.Complete
  ivrTimeout : config.ivrTimeout.toInteger?.isSome
  maxInvalidKeys : ShownAbove 1 config.maxInvalidKeys
  maxQueueSize : ShownAbove 0 config.maxQueueSize

theorem RouteConfig.Printable.sound {config : RouteConfig} (h : config.Printable) :
    config.Sound where
  hours := fun _ => ⟨h.startHour, h.startMinute, h.endHour, h.endMinute⟩
  ivrTimeout := h.ivrTimeout
  maxInvalidKeys := Or.inr h.maxInvalidKeys
  maxQueueSize := Or.inr h.maxQueueSize

theorem default_sound : RouteConfig.default.Sound := default_printable.sound

/-- What is shown is above `n`, so it has an integer. -/
theorem ShownAbove.isSome {n m : Int} {v : LuaNumber} (h : ShownAbove n v) (hnm : n ≤ m)
    (hv : v.le (.int m) ≠ true) : v.toInteger?.isSome :=
  h.resolve_left fun hle => hv (le_int_mono hnm hle)

/-- The index of `work_days` on a date. -/
def Date.dayIndex (now : Date) : Nat := if now.wday = 1 then 7 else now.wday - 1

theorem workTimeAt_ok_iff {t : RouteTables} {now : Date} :
    (∃ work, workTimeAt t now = .ok work) ↔
      t.forceWorktime = true ∨ t.config.workDays now.dayIndex ≠ some true ∨
        t.config.workHours.Complete := by
  unfold workTimeAt Date.dayIndex
  generalize (if now.wday = 1 then 7 else now.wday - 1) = day
  by_cases hforce : t.forceWorktime = true
  · rw [if_pos hforce]
    exact iff_of_true ⟨_, rfl⟩ (Or.inl hforce)
  · rw [if_neg hforce]
    by_cases hday : t.config.workDays day = some true
    · rw [if_neg (not_not.mpr hday)]
      constructor
      · rintro ⟨work, hwork⟩
        refine Or.inr (Or.inr ?_)
        split at hwork
        · next hhours =>
          rw [hhours]
          exact ⟨rfl, rfl, rfl, rfl⟩
        · cases hwork
      · rintro (h | h | hcomplete)
        · exact absurd h hforce
        · exact absurd hday h
        · split
          · exact ⟨_, rfl⟩
          · next hleft =>
            -- the other branch is that of a nil
            obtain ⟨startHour, hstart⟩ := Option.isSome_iff_exists.mp hcomplete.startHour
            obtain ⟨startMinute, hstart'⟩ := Option.isSome_iff_exists.mp hcomplete.startMinute
            obtain ⟨endHour, hend⟩ := Option.isSome_iff_exists.mp hcomplete.endHour
            obtain ⟨endMinute, hend'⟩ := Option.isSome_iff_exists.mp hcomplete.endMinute
            refine absurd ?_ (hleft startHour startMinute endHour endMinute)
            rw [← hstart, ← hstart', ← hend, ← hend']
    · rw [if_pos hday]
      exact iff_of_true ⟨_, rfl⟩ (Or.inr (Or.inl hday))

/-! ## Section 3: Sound configurations evaluate -/

section Sound

variable {p : Platform} {t : RouteTables} {config : RouteConfig}

/-- The seven days of the week are the entries 1 to 7. -/
theorem dayIndex_mem (hp : p.Calendar) (now : Int) :
    (p.date now).dayIndex ∈ List.range' 1 7 := by
  obtain ⟨hlo, hhi⟩ := hp.wday now
  rw [List.mem_range'_1]
  unfold Date.dayIndex
  split <;> omega

theorem RouteConfig.Sound.workTimeAt (h : t.config.Sound) (hp : p.Calendar) (now : Int) :
    ∃ work, workTimeAt t (p.date now) = .ok work := by
  rw [workTimeAt_ok_iff]
  by_cases hday : t.config.workDays (p.date now).dayIndex = some true
  · exact Or.inr (Or.inr (h.hours ⟨_, dayIndex_mem hp now, hday⟩))
  · exact Or.inr (Or.inl hday)

theorem NightAnswers.ok_of_sound {r : Except LuaError Answer} {code : Int} {target : CStr}
    (h : NightAnswers p t r code target) (hconfig : t.config.Sound) (hp : p.Calendar) :
    ∃ a, r = .ok a := by
  rcases h with h | ⟨e, ⟨now, -, hfails⟩, -⟩
  · exact h.ok
  · obtain ⟨work, hwork⟩ := hconfig.workTimeAt hp now
    cases hfails.symm.trans hwork

/-- A key is answered with the limit as long as the limit is above the count,
    which is at least one. -/
theorem ivrDecision_keyRetry {now : Int} {callerId digits : Option CStr}
    (hd : ivrDecision t now callerId digits = .keyRetry) :
    t.config.maxInvalidKeys.le (.int (t.nextInvalidKeys callerId)) ≠ true := by
  unfold ivrDecision overflowDecision at hd
  intro hle
  repeat' split at hd
  all_goals contradiction

theorem ivrDecision_queued {now : Int} {callerId digits : Option CStr} {deptKey : CStr}
    (hd : ivrDecision t now callerId digits = .queued deptKey) :
    (t.cleanup now).queueFull deptKey ≠ true := by
  unfold ivrDecision overflowDecision at hd
  intro hfull
  repeat' split at hd
  all_goals cases hd
  contradiction

/-- The decision of a sound configuration leads to an answer. -/
theorem Follows.ok_of_sound {t' : RouteTables} {now now' : Int} {callerId digits : Option CStr}
    {r : Except LuaError Answer} (hconfig : t.config.Sound) (hp : p.Calendar)
    (h : Follows p t now callerId
      (decision p t (Route.workTimeAt t (p.date now')) now callerId digits) r t') :
    ∃ a, r = .ok a := by
  obtain ⟨work, hwork⟩ := hconfig.workTimeAt hp now'
  have hclock : ∀ e, decision p t (Route.workTimeAt t (p.date now')) now callerId digits ≠
      .clockError e := by
    refine decision_ne_clockError (fun e he => ?_) now callerId digits
    cases he.symm.trans hwork
  rw [hwork] at h hclock
  cases work with
  | false =>
    have hnight : Follows p t now callerId (nightDecision p t) r t' := h
    rcases nightDecision_cases p t with ⟨agent, hd⟩ | hd | hd
    · rw [hd] at hnight
      exact hnight.1.ok_of_sound hconfig hp
    · rw [hd] at hnight
      exact hnight.1.ok_of_sound hconfig hp
    · rw [hd] at hnight
      exact hnight.1.ok_of_sound hconfig hp
  | true =>
    have hivr : Follows p t now callerId (ivrDecision t now callerId digits) r t' := h
    cases hd : ivrDecision t now callerId digits with
    | clockError e => exact absurd hd (hclock e)
    | nightAgent | nightFallback | nightVoicemail =>
      rw [hd] at hivr
      exact hivr.1.ok_of_sound hconfig hp
    | timeoutRetry =>
      rw [hd] at hivr
      exact hivr.1.ok hconfig.ivrTimeout
    | keyRetry =>
      rw [hd] at hivr
      refine hivr.1.ok (hconfig.maxInvalidKeys.isSome ?_ (ivrDecision_keyRetry hd))
      -- the key that was pressed is counted already
      unfold RouteTables.nextInvalidKeys
      omega
    | timeoutEscalation | keyEscalation | offline | queueFull =>
      rw [hd] at hivr
      exact hivr.1.ok
    | agentOf | overflowTo =>
      rw [hd] at hivr
      obtain ⟨⟨agent, -, hanswer⟩, -⟩ := hivr
      exact hanswer.ok
    | queued deptKey =>
      rw [hd] at hivr
      obtain ⟨⟨dept, -, hanswer⟩, -⟩ := hivr
      exact hanswer.ok (hconfig.maxQueueSize.isSome (Int.natCast_nonneg _) (ivrDecision_queued hd))

/-- A call from inside shows no number of the configuration. -/
theorem deptInternalCallRoute_ok (s : RouteState) (caller callee : CStr) :
    ∃ a, (outcome (deptInternalCallRoute p (some caller) (some callee)) s).1 = .ok a := by
  have hok : ∀ {Q : Answer → RouteState → Prop},
      Returns (deptInternalCallRoute p (some caller) (some callee)) s Q →
        ∃ a, (outcome (deptInternalCallRoute p (some caller) (some callee)) s).1 = .ok a := by
    rintro Q ⟨a, s', hrun, -⟩
    exact ⟨a, congrArg Prod.fst hrun⟩
  cases hcaller : findDepartment caller with
  | none => exact hok (deptInternalCallRoute_refused p s (Or.inl hcaller))
  | some callerDept =>
    cases hcallee : findDepartment callee with
    | none => exact hok (deptInternalCallRoute_refused p s (Or.inr hcallee))
    | some calleeDept => exact hok (deptInternalCallRoute_found p s hcaller hcallee)

theorem RouteConfig.Sound.evaluates (hconfig : config.Sound) : config.Evaluates := by
  rintro p s hp rfl
  constructor
  · rw [outcome_isWorkTime]
    exact hconfig.workTimeAt hp _
  · intro callerId digits hcall
    by_cases hexternal : isExternalCaller callerId = true
    · obtain ⟨now, -, hfollows⟩ := routeCall_follows hexternal digits s (p := p)
      exact hfollows.ok_of_sound hconfig hp
    · obtain ⟨callee, rfl⟩ := Option.isSome_iff_exists.mp (hcall.resolve_left hexternal)
      -- without a number a caller is external
      cases callerId with
      | none => exact absurd rfl hexternal
      | some caller =>
        unfold routeCall
        rw [if_neg hexternal]
        exact deptInternalCallRoute_ok s caller callee

end Sound

/-! ## Section 4: Other configurations raise errors -/

section Errors

variable {config : RouteConfig}

theorem AnswersWith.isSome {v : LuaNumber} {r : Except LuaError Answer} {code : Int}
    {target : CStr} (h : AnswersWith v r code target) (hr : ∃ a, r = .ok a) :
    v.toInteger?.isSome := by
  obtain ⟨a, rfl⟩ := hr
  unfold AnswersWith at h
  cases hv : v.toInteger? with
  | some n => rfl
  | none =>
    rw [hv] at h
    cases h

/-- A date in the middle of the night. -/
theorem steady_calendar {wday : Nat} (hlo : 1 ≤ wday) (hhi : wday ≤ 7) :
    (Platform.steady 0 ⟨wday, 0, 0⟩).Calendar where
  wday := fun _ => ⟨hlo, hhi⟩
  hour := fun _ => Nat.succ_pos _
  min := fun _ => Nat.succ_pos _

/-- The state in which the working hours count. -/
def clockState (config : RouteConfig) : RouteState :=
  (workingState config).withTables { RouteTables.declared with config := config }

theorem RouteConfig.Evaluates.hours (h : config.Evaluates) (hday : HasWorkDay config.workDays) :
    config.workHours.Complete := by
  obtain ⟨day, hmem, hday⟩ := hday
  rw [List.mem_range'_1] at hmem
  let now : Date := ⟨if day = 7 then 1 else day + 1, 0, 0⟩
  have hindex : now.dayIndex = day := by
    show (if (if day = 7 then 1 else day + 1) = 1 then 7 else
      (if day = 7 then 1 else day + 1) - 1) = day
    split_ifs <;> omega
  have hcalendar : (Platform.steady 0 now).Calendar := by
    apply steady_calendar
    · split_ifs <;> omega
    · split_ifs <;> omega
  obtain ⟨hwork, -⟩ := h (.steady 0 now) (clockState config) hcalendar rfl
  rw [outcome_isWorkTime] at hwork
  have hat : ∃ work, workTimeAt (clockState config).tables now = .ok work := hwork
  rcases workTimeAt_ok_iff.mp hat with hforce | hfree | hcomplete
  · cases hforce
  · rw [hindex] at hfree
    exact absurd hday hfree
  · exact hcomplete

/-- What follows for the answer to a caller from outside in working time. -/
theorem RouteConfig.Evaluates.follows (h : config.Evaluates) {s : RouteState}
    (hs : s.tables.config = config) (hforce : s.tables.forceWorktime = true)
    {digits : Option CStr} {d : Decision} (hd : ∀ now, ivrDecision s.tables now none digits = d) :
    ∃ p now a t', Follows p s.tables now none d (.ok a) t' := by
  have hcalendar : (Platform.steady 0 ⟨2, 0, 0⟩).Calendar :=
    steady_calendar (by decide) (by decide)
  obtain ⟨-, hroute⟩ := h (.steady 0 ⟨2, 0, 0⟩) s hcalendar hs
  obtain ⟨a, ha⟩ := hroute none digits (Or.inl rfl)
  obtain ⟨now, -, hfollows⟩ := @routeCall_follows (.steady 0 ⟨2, 0, 0⟩) none rfl digits s
  have hwork : ∀ date, workTimeAt s.tables date = .ok true := by
    intro date
    unfold workTimeAt
    rw [if_pos hforce]
  have hdecision : callDecision (.steady 0 ⟨2, 0, 0⟩) s now none digits = d := by
    unfold callDecision
    rw [hwork]
    exact hd now
  rw [hdecision, ha] at hfollows
  exact ⟨_, now, a, _, hfollows⟩

theorem RouteConfig.Evaluates.ivrTimeout (h : config.Evaluates) :
    config.ivrTimeout.toInteger?.isSome := by
  have hd : ∀ now, ivrDecision (workingState config).tables now none none = .timeoutRetry :=
    fun _ => rfl
  obtain ⟨p, now, a, t', hfollows⟩ := h.follows (s := workingState config) rfl rfl hd
  exact hfollows.1.isSome ⟨a, rfl⟩

theorem RouteConfig.Evaluates.maxInvalidKeys (h : config.Evaluates) :
    ShownAbove 1 config.maxInvalidKeys := by
  by_cases hlimit : config.maxInvalidKeys.le (.int 1) = true
  · exact Or.inl hlimit
  · refine Or.inr ?_
    have hd : ∀ now,
        ivrDecision (workingState config).tables now none (some (cstr "9")) = .keyRetry := by
      intro now
      have hmap : ivrMap (cstr "9") = none := by decide +kernel
      unfold ivrDecision
      rw [Option.getD_some, if_neg (by decide +kernel), hmap]
      exact if_neg hlimit
    obtain ⟨p, now, a, t', hfollows⟩ := h.follows (s := workingState config) rfl rfl hd
    exact hfollows.1.isSome ⟨a, rfl⟩

/-- Everybody is on the phone. -/
def talkingAgents : AgentTable where
  lookup := fun extension => some ⟨.talking, 1, 0, extension, []⟩
  extension_eq := by
    intro extension agent h
    rw [← Option.some.inj h]

def talkingState (config : RouteConfig) : RouteState :=
  (workingState config).withTables
    { (workingState config).tables with agents := talkingAgents }

theorem talkingAgents_state {deptId : CStr} {agent : Agent}
    (h : agent ∈ getDeptAgents talkingAgents deptId) : agent.state = .talking := by
  obtain ⟨dept, ext, -, -, -, hlookup⟩ := mem_getDeptAgents.mp h
  rw [← Option.some.inj hlookup]

theorem talkingAgents_idle (deptId : CStr) : ¬ HasIdle talkingAgents deptId := by
  rintro ⟨agent, hmem, hidle⟩
  cases (talkingAgents_state hmem).symm.trans hidle

theorem talkingAgents_online : ¬ DeptOffline talkingAgents (cstr "sales") := by
  intro hoffline
  have hmap : ivrMap (cstr "1") = some (cstr "sales") := by decide +kernel
  have hrange : ∀ d ∈ department (cstr "sales"), d.rangeStart ≤ d.rangeEnd := by decide +kernel
  obtain ⟨dept, hdept, -⟩ := ivrMap_department hmap
  -- the first extension of the range
  have hmem : (⟨.talking, 1, 0, natText dept.rangeStart, []⟩ : Agent) ∈
      getDeptAgents talkingAgents (cstr "sales") :=
    mem_getDeptAgents.mpr ⟨dept, dept.rangeStart, hdept, le_refl _, hrange dept hdept, rfl⟩
  cases hoffline _ hmem

theorem RouteConfig.Evaluates.maxQueueSize (h : config.Evaluates) :
    ShownAbove 0 config.maxQueueSize := by
  by_cases hlimit : config.maxQueueSize.le (.int 0) = true
  · exact Or.inl hlimit
  · refine Or.inr ?_
    have hmap : ivrMap (cstr "1") = some (cstr "sales") := by decide +kernel
    have hcount : ∀ deptId, ¬ 0 < countIdleAgents (talkingState config).tables.agents deptId := by
      intro deptId
      rw [← hasIdle_iff]
      exact talkingAgents_idle deptId
    have hnone : findOverflowDept (talkingState config).tables (cstr "sales") = none := by
      by_contra hsome
      obtain ⟨⟨dept, key⟩, hfind⟩ := Option.ne_none_iff_exists'.mp hsome
      exact hcount key (findOverflowDept_some hfind).2.1
    have hd : ∀ now, ivrDecision (talkingState config).tables now none (some (cstr "1")) =
        .queued (cstr "sales") := by
      intro now
      rw [ivrDecision_busy hmap (talkingAgents_idle _) talkingAgents_online]
      unfold overflowDecision
      rw [if_neg (hcount _), hnone]
      exact if_neg hlimit
    obtain ⟨p, now, a, t', hfollows⟩ := h.follows (s := talkingState config) rfl rfl hd
    obtain ⟨⟨dept, -, hanswer⟩, -⟩ := hfollows
    exact hanswer.isSome ⟨a, rfl⟩

end Errors

/-- **Evaluation**: what a configuration needs. -/
theorem evaluates_iff {config : RouteConfig} : config.Evaluates ↔ config.Sound :=
  ⟨fun h => ⟨h.hours, h.ivrTimeout, h.maxInvalidKeys, h.maxQueueSize⟩, fun h => h.evaluates⟩

/-! ## Section 5: One update -/

/-- What an update is for: it keeps what it does not mention, and calls go on
    being answered. -/
def UpdateKeeps (p : Platform) (s : RouteState) (u : ConfigUpdate) : Prop :=
  Returns (updateRouteConfig p (some u)) s fun done s' =>
    done = true ∧ Keeps s.tables.config.table u.tables s'.tables.config.table ∧
      (s.tables.config.Evaluates → s'.tables.config.Evaluates)

/-- The working hours and days that an update gives leave out no field and no
    entry of those they replace. -/
structure ConfigUpdate.Whole (u : ConfigUpdate) (config : RouteConfig) : Prop where
  hours : ∀ hours, u.workHours = some hours →
    ∀ i, (config.workHours.fields i).isSome → (hours.fields i).isSome
  days : ∀ days, u.workDays = some days →
    ∀ day, (config.workDays day).isSome → (days day).isSome

/-- The numbers of an update can be shown; and if it brings the first working
    days, it brings the hours that are missing. -/
structure ConfigUpdate.Proper (u : ConfigUpdate) (config : RouteConfig) : Prop where
  hours : ¬ config.workHours.Complete → ∀ days, u.workDays = some days → HasWorkDay days →
    ∃ hours, u.workHours = some hours ∧ hours.Complete
  ivrTimeout : ∀ v, u.ivrTimeout = some v → v.toInteger?.isSome
  maxInvalidKeys : ∀ v, u.maxInvalidKeys = some v → ShownAbove 1 v
  maxQueueSize : ∀ v, u.maxQueueSize = some v → ShownAbove 0 v

section Updates

variable {config : RouteConfig} {u : ConfigUpdate}

/-- A value that is given as one leaves nothing out. -/
theorem isSome_of_single {α : Type} {new : Option α} {f : α → ConfigValue} {old : α}
    {fields : ConfigField → Option ConfigValue} (h : new.map (single ∘ f) = some fields)
    {i : ConfigField} (hi : (single (f old) i).isSome) : (fields i).isSome := by
  obtain ⟨v, -, rfl⟩ := Option.map_eq_some_iff.mp h
  cases i with
  | self => rfl
  | startHour | startMinute | endHour | endMinute | entry => cases hi

theorem isSome_dayFields {days : Nat → Option Bool} {i : ConfigField} :
    (dayFields days i).isSome ↔ ∃ day, i = .entry day ∧ (days day).isSome := by
  cases i with
  | entry day => simp [dayFields]
  | self | startHour | startMinute | endHour | endMinute => simp [dayFields]

/-- Only the two values with fields can be given in part. -/
theorem covers_iff : Covers u.tables config.table ↔ u.Whole config := by
  constructor
  · intro h
    constructor
    · intro hours hhours
      exact h .workHours hours.fields (congrArg (Option.map _) hhours)
    · intro days hdays day hday
      have hfields : u.tables .workDays = some (dayFields days) :=
        congrArg (Option.map _) hdays
      have hold : (config.table .workDays (.entry day)).isSome :=
        isSome_dayFields.mpr ⟨day, rfl, hday⟩
      obtain ⟨day', heq, hnew⟩ := isSome_dayFields.mp (h .workDays _ hfields _ hold)
      cases heq
      exact hnew
  · rintro h key fields hfields i hi
    cases key with
    | ivrTimeout | externalGateway | fallbackAgent | maxInvalidKeys | maxQueueSize |
      queueTimeout | nightDutyDept | voicemailPrompt | overflowPriority =>
      exact isSome_of_single hfields hi
    | workHours =>
      obtain ⟨hours, hhours, rfl⟩ := Option.map_eq_some_iff.mp hfields
      exact h.hours hours hhours i hi
    | workDays =>
      obtain ⟨days, hdays, rfl⟩ := Option.map_eq_some_iff.mp hfields
      obtain ⟨day, rfl, hday⟩ := isSome_dayFields.mp hi
      exact isSome_dayFields.mpr ⟨day, rfl, h.days days hdays day hday⟩

/-- Complete hours are only replaced by complete ones. -/
theorem ConfigUpdate.Whole.complete (h : u.Whole config) (hcomplete : config.workHours.Complete)
    {hours : WorkHours} (hhours : u.workHours = some hours) : hours.Complete := by
  have hcover := h.hours hours hhours
  constructor
  · simpa [WorkHours.fields, hcomplete.startHour] using hcover .startHour
  · simpa [WorkHours.fields, hcomplete.startMinute] using hcover .startMinute
  · simpa [WorkHours.fields, hcomplete.endHour] using hcover .endHour
  · simpa [WorkHours.fields, hcomplete.endMinute] using hcover .endMinute

/-- A value that is sound before the update is sound after it exactly if the
    given one is. -/
theorem getD_iff {α : Type} {P : α → Prop} {new : Option α} {old : α} (hold : P old) :
    P (new.getD old) ↔ ∀ v, new = some v → P v := by
  cases new with
  | none => exact iff_of_true hold nofun
  | some v =>
    constructor
    · rintro h _ ⟨⟩
      exact h
    · intro h
      exact h v rfl

theorem hours_update_iff (hconfig : config.Sound) (hwhole : u.Whole config) :
    (HasWorkDay (config.update u).workDays → (config.update u).workHours.Complete) ↔
      (¬ config.workHours.Complete → ∀ days, u.workDays = some days → HasWorkDay days →
        ∃ hours, u.workHours = some hours ∧ hours.Complete) := by
  show (HasWorkDay (u.workDays.getD config.workDays) →
    (u.workHours.getD config.workHours).Complete) ↔ _
  constructor
  · intro h hmissing days hdays hday
    have hcomplete := h (by rw [hdays]; exact hday)
    cases hhours : u.workHours with
    | none =>
      rw [hhours] at hcomplete
      exact absurd hcomplete hmissing
    | some hours =>
      rw [hhours] at hcomplete
      exact ⟨hours, rfl, hcomplete⟩
  · intro h hday
    by_cases hcomplete : config.workHours.Complete
    · rw [getD_iff hcomplete]
      exact fun hours hhours => hwhole.complete hcomplete hhours
    · cases hdays : u.workDays with
      | none =>
        rw [hdays] at hday
        exact absurd (hconfig.hours hday) hcomplete
      | some days =>
        rw [hdays] at hday
        obtain ⟨hours, hhours, hnew⟩ := h hcomplete days hdays hday
        rw [hhours]
        exact hnew

theorem sound_update_iff (hconfig : config.Sound) (hwhole : u.Whole config) :
    (config.update u).Sound ↔ u.Proper config := by
  have hhours := hours_update_iff hconfig hwhole
  have htimeout : (u.ivrTimeout.getD config.ivrTimeout).toInteger?.isSome ↔ _ :=
    getD_iff (P := fun v : LuaNumber => v.toInteger?.isSome) hconfig.ivrTimeout
  have hkeys : ShownAbove 1 (u.maxInvalidKeys.getD config.maxInvalidKeys) ↔ _ :=
    getD_iff hconfig.maxInvalidKeys
  have hqueue : ShownAbove 0 (u.maxQueueSize.getD config.maxQueueSize) ↔ _ :=
    getD_iff hconfig.maxQueueSize
  constructor
  · intro h
    exact ⟨hhours.mp h.hours, htimeout.mp h.ivrTimeout, hkeys.mp h.maxInvalidKeys,
      hqueue.mp h.maxQueueSize⟩
  · intro h
    exact ⟨hhours.mpr h.hours, htimeout.mpr h.ivrTimeout, hkeys.mpr h.maxInvalidKeys,
      hqueue.mpr h.maxQueueSize⟩

end Updates

theorem outcome_updateRouteConfig (p : Platform) (s : RouteState) (u : ConfigUpdate) :
    outcome (updateRouteConfig p (some u)) s =
      (.ok true, (s.withTables { s.tables with config := s.tables.config.update u }).logged p
        (cstr "INFO") (some (cstr "system")) (cstr "config_update") (cstr "运行时配置已更新")) :=
  rfl

theorem updateKeeps_iff (p : Platform) (s : RouteState) (u : ConfigUpdate) :
    UpdateKeeps p s u ↔
      Keeps s.tables.config.table u.tables (s.tables.config.update u).table ∧
        (s.tables.config.Evaluates → (s.tables.config.update u).Evaluates) := by
  unfold UpdateKeeps
  constructor
  · rintro ⟨done, s', hrun, -, hkeeps, hevaluates⟩
    rw [outcome_updateRouteConfig] at hrun
    obtain ⟨-, rfl⟩ := Prod.mk.inj hrun
    exact ⟨hkeeps, hevaluates⟩
  · intro h
    exact ⟨true, _, outcome_updateRouteConfig p s u, rfl, h⟩

/-- **An update** keeps what it does not mention exactly if the working hours
    and days that it gives leave nothing out; and then it leaves a
    configuration that evaluates exactly if it is proper. -/
theorem updateConfig_iff (p : Platform) (s : RouteState) (u : ConfigUpdate) :
    UpdateKeeps p s u ↔
      u.Whole s.tables.config ∧ (s.tables.config.Sound → u.Proper s.tables.config) := by
  rw [updateKeeps_iff, update_table, keeps_overwrite_iff, covers_iff, evaluates_iff, evaluates_iff]
  apply and_congr_right
  intro hwhole
  exact forall_congr' fun hconfig => sound_update_iff hconfig hwhole

-- an order of the departments is one value
example (config : RouteConfig) (keys : List CStr) :
    ConfigUpdate.Whole { overflowPriority := some keys } config where
  hours := by
    intro hours h
    cases h
  days := by
    intro days h
    cases h

/-- Work starts at nine. -/
def startHourUpdate : ConfigUpdate :=
  { workHours := some ⟨some (.int 9), none, none, none⟩ }

/-- The end of the working hours is gone, and no caller from outside gets an
    answer on a working day. -/
theorem work_hours_replaced :
    ¬ UpdateKeeps mondayMorning (loadedState mondayMorning 0) startHourUpdate ∧
      ∃ s', outcome (updateRouteConfig mondayMorning (some startHourUpdate))
          (loadedState mondayMorning 0) = (.ok true, s') ∧
        (outcome (isWorkTime mondayMorning) s').1 = .error .arithmeticOnNil ∧
          (outcome (routeCall mondayMorning (some (cstr "4001")) (some (cstr "1"))) s').1 =
            .error .arithmeticOnNil := by
  have hfresh := loadedState_fresh mondayMorning 0
  have hconfig := hfresh.config
  have hforce : (loadedState mondayMorning 0).tables.forceWorktime = false := by
    rw [hfresh.declared]
    rfl
  constructor
  · rw [updateKeeps_iff, hconfig]
    rintro ⟨hkeeps, -⟩
    cases hkeeps .workHours .endHour rfl
  · refine ⟨_, outcome_updateRouteConfig _ _ _, ?_⟩
    generalize hs' : RouteState.logged _ _ _ _ _ _ = s'
    -- Monday at nine
    have hwork : ∀ now, workTimeAt s'.tables (mondayMorning.date now) =
        .error .arithmeticOnNil := by
      intro now
      subst hs'
      unfold workTimeAt
      simp only [logged_tables, withTables_tables, hconfig, hforce]
      rfl
    constructor
    · rw [outcome_isWorkTime]
      exact hwork _
    · have hexternal : isExternalCaller (some (cstr "4001")) = true := by decide +kernel
      obtain ⟨now, -, hfollows⟩ :=
        routeCall_follows (p := mondayMorning) hexternal (some (cstr "1")) s'
      unfold callDecision at hfollows
      rw [hwork] at hfollows
      exact hfollows.1

/-! ## Section 6: Sequences of updates -/

section Runs

variable {p : Platform} {s s' : RouteState}

theorem Follows.config {t t' : RouteTables} {now : Int} {callerId : Option CStr} {d : Decision}
    {r : Except LuaError Answer} (h : Follows p t now callerId d r t') : t'.config = t.config := by
  cases d with
  | clockError | nightAgent | nightFallback | nightVoicemail =>
    exact congrArg RouteTables.config h.2
  | timeoutRetry | timeoutEscalation => rw [h.2, setTimeouts_config]
  | keyRetry | keyEscalation => rw [h.2, setInvalidKeys_config]
  | offline | agentOf | overflowTo => rw [h.2, cleanup_config]
  | queued =>
    obtain ⟨-, arrival, -, rfl⟩ := h
    rfl
  | queueFull => rw [h.2, openQueue_config, cleanup_config]

theorem routeCall_config (callerId digits : Option CStr) :
    (outcome (routeCall p callerId digits) s).2.tables.config = s.tables.config := by
  by_cases hexternal : isExternalCaller callerId = true
  · obtain ⟨now, -, hfollows⟩ := routeCall_follows hexternal digits s (p := p)
    exact hfollows.config
  · unfold routeCall
    rw [if_neg hexternal]
    exact congrArg RouteTables.config (deptInternalCallRoute_observes p callerId digits s).1

/-- The update of an operation, if it is one. -/
def RouteOp.update? : RouteOp → Option ConfigUpdate
  | .updateConfig u => u
  | _ => none

/-- Nothing but an update changes the configuration. -/
theorem routeStep_config (op : RouteOp) :
    (routeStep p s op).tables.config =
      match op.update? with
      | some u => s.tables.config.update u
      | none => s.tables.config := by
  cases op with
  | call callerId digits => exact routeCall_config callerId digits
  | updateConfig u =>
    cases u with
    | none => rfl
    | some u => rfl
  | resetKeys callerId => rfl

/-- The condition on an update of a run. -/
def ProperUpdates (s : RouteState) (op : RouteOp) : Prop :=
  ∀ u, op.update? = some u →
    u.Whole s.tables.config ∧ (s.tables.config.Sound → u.Proper s.tables.config)

/-- The updates of a sequence of operations, in order. -/
def updatesOf (ops : List RouteOp) : List (Update ConfigKey ConfigField ConfigValue) :=
  ops.filterMap fun op => op.update?.map ConfigUpdate.tables

theorem configStep_merges {op : RouteOp} (hproper : ProperUpdates s op) :
    (routeStep p s op).tables.config.table = (updatesOf [op]).foldl merge s.tables.config.table ∧
      (s.tables.config.Evaluates → (routeStep p s op).tables.config.Evaluates) := by
  have hconfig := routeStep_config (p := p) (s := s) op
  unfold updatesOf
  cases hu : op.update? with
  | none =>
    rw [hu] at hconfig
    rw [hconfig, List.filterMap_cons, hu]
    exact ⟨rfl, id⟩
  | some u =>
    obtain ⟨hwhole, hsound⟩ := hproper u hu
    rw [hu] at hconfig
    rw [hconfig, List.filterMap_cons, hu, update_table, overwrite_eq_merge (covers_iff.mpr hwhole),
      evaluates_iff, evaluates_iff]
    exact ⟨rfl, fun hold => (sound_update_iff hold hwhole).mpr (hsound hold)⟩

/-- **Updates in any order**: the configuration is that of the first state with
    all the updates merged into it, and it goes on evaluating. -/
theorem configRun_merges {ops : List RouteOp}
    (hrun : Run (restrict (ofFun (routeStep p)) ProperUpdates) s ops s') :
    s'.tables.config.table = (updatesOf ops).foldl merge s.tables.config.table ∧
      (s.tables.config.Evaluates → s'.tables.config.Evaluates) := by
  apply hrun.trace_invariant
  · exact ⟨rfl, id⟩
  · rintro ops t op _ - ⟨htable, hevaluates⟩ ⟨hproper, rfl⟩
    obtain ⟨hstep, hgoeson⟩ := configStep_merges (p := p) hproper
    refine ⟨?_, hgoeson ∘ hevaluates⟩
    rw [hstep, htable, ← List.foldl_append]
    unfold updatesOf
    rw [← List.filterMap_append]

/-- What no update of the run gives has its first value. -/
theorem configRun_keeps {ops : List RouteOp}
    (hrun : Run (restrict (ofFun (routeStep p)) ProperUpdates) s ops s') {k : ConfigKey}
    {i : ConfigField} (hnone : ∀ u ∈ updatesOf ops, u.given k i = none) :
    s'.tables.config.table k i = s.tables.config.table k i := by
  rw [(configRun_merges hrun).1]
  exact merge_foldl_keeps hnone

end Runs

end Route
