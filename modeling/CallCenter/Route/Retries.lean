import CallCenter.Framework.Streak
import CallCenter.Route.Repetition
import CallCenter.Route.Loading

/-! # Counting Failures

    `get_ivr_route` counts invalid keys and empty inputs for each caller and
    escalates at a limit.  The answers speak of failures in a row, but a
    counter starts anew only when it has escalated itself.  So every `m`-th
    invalid key and every second empty input of a caller escalates, whatever
    came in between (`failures_counted`).

    * Section 1: inputs and what one of them does to the counters.
    * Section 2: the counters over a run.
    * Section 3: when the escalations are those of failures in a row
      (`escalation_iff`). -/

namespace Route

open CFormat Lua Script Transition History

/-! ## Section 1: Inputs -/

/-- The branch of `get_ivr_route` that an input takes. -/
inductive InputKind where
  | empty
  | invalidKey
  | validKey
  deriving DecidableEq, Repr

/-- The arguments of `get_ivr_route`. -/
structure IvrInput where
  phone : Option CStr
  keyInput : Option CStr

/-- The name under which the caller is counted. -/
def IvrInput.caller (x : IvrInput) : CStr := counted x.phone

def IvrInput.kind (x : IvrInput) : InputKind :=
  if x.keyInput.getD [] = [] then .empty
  else if (ivrMap (x.keyInput.getD [])).isSome then .validKey
  else .invalidKey

/-- The failures of a kind that are counted for a caller. -/
def RouteTables.failures (t : RouteTables) : InputKind → CStr → Nat
  | .invalidKey, caller => (t.invalidKeyCount caller).getD 0
  | .empty, caller => (t.timeoutRetryCount caller).getD 0
  | .validKey, _ => 0

/-- The limit of a kind, where `m` is `max_invalid_keys`. -/
def failureLimit (m : Nat) : InputKind → Nat
  | .invalidKey => m
  | _ => 2

/-- What an input with the result `r` does to the counters. -/
structure Counted (m : Nat) (x : IvrInput) (t t' : RouteTables) (r : Except LuaError Answer) :
    Prop where
  config : t'.config = t.config
  other : ∀ kind caller, (kind, caller) ≠ (x.kind, x.caller) →
    t'.failures kind caller = t.failures kind caller
  escalates : x.kind ≠ .validKey →
    (resultCode r = some 4 ↔ failureLimit m x.kind ≤ t.failures x.kind x.caller + 1)
  counter : x.kind ≠ .validKey → t'.failures x.kind x.caller =
    if failureLimit m x.kind ≤ t.failures x.kind x.caller + 1 then 0
    else t.failures x.kind x.caller + 1

variable {p : Platform} {t t' : RouteTables} {m : Nat} {x : IvrInput} {now : Int}
  {r : Except LuaError Answer}

theorem failures_setTimeouts (c : CStr) (n : Nat) (kind : InputKind) (caller : CStr) :
    (t.setTimeouts c n).failures kind caller =
      if kind = .empty ∧ caller = c then n else t.failures kind caller := by
  cases kind with
  | empty =>
    by_cases hcaller : caller = c
    · simp [RouteTables.failures, RouteTables.setTimeouts, hcaller]
    · simp [RouteTables.failures, RouteTables.setTimeouts, hcaller]
  | invalidKey => simp [RouteTables.failures, RouteTables.setTimeouts]
  | validKey => simp [RouteTables.failures]

theorem failures_setInvalidKeys (c : CStr) (n : Nat) (kind : InputKind) (caller : CStr) :
    (t.setInvalidKeys c n).failures kind caller =
      if kind = .invalidKey ∧ caller = c then n else t.failures kind caller := by
  cases kind with
  | invalidKey =>
    by_cases hcaller : caller = c
    · simp [RouteTables.failures, RouteTables.setInvalidKeys, hcaller]
    · simp [RouteTables.failures, RouteTables.setInvalidKeys, hcaller]
  | empty => simp [RouteTables.failures, RouteTables.setInvalidKeys]
  | validKey => simp [RouteTables.failures]

theorem failures_openQueue (deptKey : CStr) : (t.openQueue deptKey).failures = t.failures := by
  unfold RouteTables.openQueue
  split <;> rfl

/-- At a department nothing is counted. -/
theorem Follows.failures {d : Decision} {deptKey : CStr} {callerId : Option CStr}
    (hd : d.AtDept deptKey) (h : Follows p t now callerId d r t') :
    t'.config = t.config ∧ t'.failures = t.failures := by
  cases d with
  | offline | agentOf _ | overflowTo _ =>
    obtain ⟨-, rfl⟩ := h
    exact ⟨rfl, rfl⟩
  | queued key =>
    obtain ⟨-, arrival, -, rfl⟩ := h
    exact ⟨rfl, rfl⟩
  | queueFull key =>
    obtain ⟨-, rfl⟩ := h
    refine ⟨openQueue_config _ _, ?_⟩
    rw [failures_openQueue]
    rfl
  | _ => exact hd.elim

theorem counted_validKey (hkind : x.kind = .validKey)
    (h : Follows p t now x.phone (ivrDecision t now x.phone x.keyInput) r t') :
    Counted m x t t' r := by
  unfold IvrInput.kind at hkind
  split at hkind
  · cases hkind
  · next hne =>
    split at hkind
    · next hsome =>
      obtain ⟨deptKey, hmap⟩ := Option.isSome_iff_exists.mp hsome
      obtain ⟨hconfig, hsame⟩ := h.failures (ivrDecision_atDept hne hmap)
      have hvalid : x.kind = .validKey := by
        unfold IvrInput.kind
        rw [if_neg hne, if_pos hsome]
      exact ⟨hconfig, fun kind caller _ => by rw [hsame], fun hnot => absurd hvalid hnot,
        fun hnot => absurd hvalid hnot⟩
    · cases hkind

/-- A failure writes the counter of its kind and its caller. -/
theorem Counted.of_set {n : Nat} (hconfig : t'.config = t.config)
    (hset : ∀ kind caller, t'.failures kind caller =
      if kind = x.kind ∧ caller = x.caller then n else t.failures kind caller)
    (hn : n = if failureLimit m x.kind ≤ t.failures x.kind x.caller + 1 then 0
      else t.failures x.kind x.caller + 1)
    (hcode : resultCode r = some 4 ↔ failureLimit m x.kind ≤ t.failures x.kind x.caller + 1) :
    Counted m x t t' r where
  config := hconfig
  other := by
    intro kind caller hne
    rw [hset, if_neg]
    rintro ⟨rfl, rfl⟩
    exact hne rfl
  escalates := fun _ => hcode
  counter := by
    intro _
    rw [hset, if_pos ⟨rfl, rfl⟩, hn]

/-- An answer that shows a number has its own code, or is an error. -/
theorem AnswersWith.not_escalated {v : LuaNumber} {code : Int} {target : CStr}
    (h : AnswersWith v r code target) (hcode : code ≠ 4) :
    Route.resultCode r ≠ some 4 := by
  rw [h.resultCode]
  cases v.toInteger? with
  | none => nofun
  | some n => exact fun heq => hcode (Option.some.inj heq)

theorem counted_empty (hkind : x.kind = .empty)
    (h : Follows p t now x.phone (ivrDecision t now x.phone x.keyInput) r t') :
    Counted m x t t' r := by
  have hempty : x.keyInput.getD [] = [] := by
    by_contra hne
    unfold IvrInput.kind at hkind
    rw [if_neg hne] at hkind
    split at hkind <;> cases hkind
  have hnext : t.nextTimeouts x.phone = t.failures .empty x.caller + 1 := rfl
  unfold ivrDecision at h
  rw [if_pos hempty, hnext] at h
  by_cases hlimit : 2 ≤ t.failures .empty x.caller + 1
  · rw [if_pos hlimit] at h
    obtain ⟨hanswer, rfl⟩ := h
    refine Counted.of_set rfl (n := 0) ?_ ?_ ?_
    · rw [hkind]
      exact failures_setTimeouts _ _
    · rw [hkind]
      exact (if_pos hlimit).symm
    · rw [hkind]
      exact iff_of_true hanswer.resultCode hlimit
  · rw [if_neg hlimit] at h
    obtain ⟨hanswer, rfl⟩ := h
    refine Counted.of_set rfl (n := t.failures .empty x.caller + 1) ?_ ?_ ?_
    · rw [hkind]
      exact failures_setTimeouts _ _
    · rw [hkind]
      exact (if_neg hlimit).symm
    · rw [hkind]
      exact iff_of_false (hanswer.not_escalated (by decide)) hlimit

theorem counted_invalidKey (hm : t.config.maxInvalidKeys = .int m) (hkind : x.kind = .invalidKey)
    (h : Follows p t now x.phone (ivrDecision t now x.phone x.keyInput) r t') :
    Counted m x t t' r := by
  obtain ⟨hne, hmap⟩ : x.keyInput.getD [] ≠ [] ∧ ivrMap (x.keyInput.getD []) = none := by
    unfold IvrInput.kind at hkind
    split at hkind
    · cases hkind
    · next hne =>
      split at hkind
      · cases hkind
      · next hnone => exact ⟨hne, Option.not_isSome_iff_eq_none.mp hnone⟩
  have hnext : t.nextInvalidKeys x.phone = t.failures .invalidKey x.caller + 1 := rfl
  have hle : (LuaNumber.int m).le (.int (t.failures .invalidKey x.caller + 1 : Nat)) = true ↔
      m ≤ t.failures .invalidKey x.caller + 1 := by
    rw [le_int_int, decide_eq_true_eq]
    omega
  unfold ivrDecision at h
  rw [if_neg hne, hmap, hm, hnext] at h
  dsimp only at h
  by_cases hlimit : m ≤ t.failures .invalidKey x.caller + 1
  · rw [if_pos (hle.mpr hlimit)] at h
    obtain ⟨hanswer, rfl⟩ := h
    refine Counted.of_set rfl (n := 0) ?_ ?_ ?_
    · rw [hkind]
      exact failures_setInvalidKeys _ _
    · rw [hkind]
      exact (if_pos hlimit).symm
    · rw [hkind]
      exact iff_of_true hanswer.resultCode hlimit
  · rw [if_neg (mt hle.mp hlimit)] at h
    obtain ⟨hanswer, rfl⟩ := h
    refine Counted.of_set rfl (n := t.failures .invalidKey x.caller + 1) ?_ ?_ ?_
    · rw [hkind]
      exact failures_setInvalidKeys _ _
    · rw [hkind]
      exact (if_neg hlimit).symm
    · rw [hkind]
      exact iff_of_false (hanswer.not_escalated (by decide)) hlimit

/-- **One input** raises one counter, and escalates at its limit. -/
theorem getIvrRoute_counted (p : Platform) (s : RouteState)
    (hm : s.tables.config.maxInvalidKeys = .int m) (x : IvrInput) :
    Runs (getIvrRoute p x.phone x.keyInput) s fun r s' =>
      Counted m x s.tables s'.tables r := by
  apply Runs.mono (getIvrRoute_follows x.phone x.keyInput rfl)
  rintro r s' hfollows
  cases hkind : x.kind with
  | empty => exact counted_empty hkind hfollows
  | invalidKey => exact counted_invalidKey hm hkind hfollows
  | validKey => exact counted_validKey hkind hfollows

/-! ## Section 2: Runs -/

/-- An input with its answer. -/
structure IvrEvent where
  input : IvrInput
  result : Except LuaError Answer

/-- Answered with `FALLBACK_AGENT`. -/
def IvrEvent.fallback (e : IvrEvent) : Bool := resultCode e.result = some 4

/-- A failure that was answered with `FALLBACK_AGENT`. -/
def IvrEvent.escalated (e : IvrEvent) : Bool := e.input.kind ≠ .validKey && e.fallback

/-- The script and what it was asked so far, the last input first. -/
structure IvrRun where
  state : RouteState
  log : List IvrEvent

def ivrEvent (p : Platform) (s : RouteState) (x : IvrInput) : IvrEvent :=
  ⟨x, (outcome (getIvrRoute p x.phone x.keyInput) s).1⟩

def ivrStep (p : Platform) (run : IvrRun) (x : IvrInput) : IvrRun :=
  ⟨(outcome (getIvrRoute p x.phone x.keyInput) run.state).2, ivrEvent p run.state x :: run.log⟩

/-- The inputs of a caller. -/
def ownInputs (caller : CStr) (l : List IvrInput) : List IvrInput :=
  l.filter fun x => x.caller = caller

def ownEvents (caller : CStr) (log : List IvrEvent) : List IvrEvent :=
  log.filter fun e => e.input.caller = caller

def IvrInput.is (kind : InputKind) (x : IvrInput) : Bool := x.kind = kind

def IvrEvent.is (kind : InputKind) (e : IvrEvent) : Bool := e.input.is kind

/-- The counters are the numbers of failures so far, modulo the limits. -/
structure IvrInv (m : Nat) (run : IvrRun) : Prop where
  config : run.state.tables.config.maxInvalidKeys = .int m
  failures : ∀ kind, kind ≠ .validKey → ∀ caller, run.state.tables.failures kind caller =
    (ownEvents caller run.log).countP (IvrEvent.is kind) % failureLimit m kind
  marked : ∀ kind, kind ≠ .validKey → ∀ caller,
    MarkedEvery (IvrEvent.is kind) IvrEvent.escalated (failureLimit m kind)
      (ownEvents caller run.log)

theorem failureLimit_pos (hm : 1 ≤ m) (kind : InputKind) : 1 ≤ failureLimit m kind := by
  cases kind with
  | invalidKey => exact hm
  | empty => exact one_le_two
  | validKey => exact one_le_two

theorem ownEvents_self (e : IvrEvent) (log : List IvrEvent) :
    ownEvents e.input.caller (e :: log) = e :: ownEvents e.input.caller log := by
  simp [ownEvents]

theorem ownEvents_ne {e : IvrEvent} {caller : CStr} (h : caller ≠ e.input.caller)
    (log : List IvrEvent) : ownEvents caller (e :: log) = ownEvents caller log := by
  simp [ownEvents, Ne.symm h]

theorem IvrInv.step (hm : 1 ≤ m) {run : IvrRun} (h : IvrInv m run) (x : IvrInput) :
    IvrInv m (ivrStep p run x) := by
  have hcounted : Counted m x run.state.tables (ivrStep p run x).state.tables
      (ivrEvent p run.state x).result := getIvrRoute_counted p run.state h.config x
  generalize hnext : (ivrStep p run x).state = s' at hcounted
  generalize hevent : ivrEvent p run.state x = e at hcounted
  have hstep : ivrStep p run x = ⟨s', e :: run.log⟩ := by rw [← hnext, ← hevent]; rfl
  obtain rfl : e.input = x := by rw [← hevent]; rfl
  rw [hstep]
  -- the count of the kind and the caller of the input goes up by one
  have hcount : ∀ kind, e.input.kind = kind → (e :: ownEvents e.input.caller run.log).countP
      (IvrEvent.is kind) = (ownEvents e.input.caller run.log).countP (IvrEvent.is kind) + 1 :=
    fun kind hkind => List.countP_cons_of_pos (by simp [IvrEvent.is, IvrInput.is, hkind])
  constructor
  · rw [← h.config]
    exact congrArg RouteConfig.maxInvalidKeys hcounted.config
  · intro kind hkind caller
    by_cases hcaller : caller = e.input.caller
    · subst hcaller
      rw [ownEvents_self]
      by_cases hsame : e.input.kind = kind
      · subst hsame
        rw [hcounted.counter hkind, h.failures _ hkind, hcount _ rfl]
        exact (counter_step (failureLimit_pos hm _) _).2
      · rw [hcounted.other kind _ (by simp [Ne.symm hsame]), h.failures _ hkind,
          List.countP_cons_of_neg (by simp [IvrEvent.is, IvrInput.is, hsame])]
    · rw [ownEvents_ne hcaller, hcounted.other kind caller (by simp [hcaller]),
        h.failures _ hkind]
  · intro kind hkind caller
    by_cases hcaller : caller = e.input.caller
    · subst hcaller
      rw [ownEvents_self]
      apply (h.marked kind hkind _).cons
      intro hsame
      obtain rfl : e.input.kind = kind := by simpa [IvrEvent.is, IvrInput.is] using hsame
      have hescalated : e.escalated = true ↔ resultCode e.result = some 4 := by
        unfold IvrEvent.escalated IvrEvent.fallback
        rw [decide_eq_true hkind, Bool.true_and, decide_eq_true_iff]
      rw [hescalated, hcounted.escalates hkind, h.failures _ hkind, hcount _ rfl]
      exact (counter_step (failureLimit_pos hm _) _).1
    · rw [ownEvents_ne hcaller]
      exact h.marked kind hkind caller

/-- **The counters over a run.** -/
theorem failures_counted {s₀ : RouteState} (hmax : s₀.tables.config.maxInvalidKeys = .int m)
    (hm : 1 ≤ m) (hstart : ∀ kind caller, s₀.tables.failures kind caller = 0)
    {inputs : List IvrInput} {run : IvrRun}
    (hrun : Run (ofFun (ivrStep p)) ⟨s₀, []⟩ inputs run) : IvrInv m run := by
  apply hrun.invariant
  · refine ⟨hmax, fun kind _ caller => ?_, fun kind _ caller => markedEvery_nil⟩
    rw [hstart]
    exact (Nat.zero_mod _).symm
  · rintro t x _ ht rfl
    exact ht.step hm x

/-! ## Section 3: Failures in a row -/

/-- A failure is answered with `FALLBACK_AGENT` exactly when it completes a
    row: the latest inputs of the caller since the last escalation, as many as
    the limit says, are all failures of its kind. -/
def FollowsRule (m : Nat) (e : IvrEvent) (before : List IvrEvent) : Prop :=
  e.input.kind ≠ .validKey →
    (e.fallback = true ↔ Streak (IvrEvent.is e.input.kind) (failureLimit m e.input.kind)
      (e :: since IvrEvent.escalated (ownEvents e.input.caller before)))

/-- If the number of such failures of the caller so far is a multiple of the
    limit, the latest ones came in a row. -/
def InRow (m : Nat) (x : IvrInput) (before : List IvrInput) : Prop :=
  x.kind ≠ .validKey →
    failureLimit m x.kind ∣ (x :: ownInputs x.caller before).countP (IvrInput.is x.kind) →
      Streak (IvrInput.is x.kind) (failureLimit m x.kind) (x :: ownInputs x.caller before)

instance (m : Nat) (x : IvrInput) (before : List IvrInput) : Decidable (InRow m x before) :=
  inferInstanceAs (Decidable (_ → _ → _))

theorem ownInputs_map (caller : CStr) (log : List IvrEvent) :
    ownInputs caller (log.map IvrEvent.input) = (ownEvents caller log).map IvrEvent.input := by
  unfold ownInputs ownEvents
  rw [List.filter_map]
  rfl

/-- An answer follows the rule exactly when the inputs were in a row. -/
theorem IvrInv.followsRule_iff (hm : 1 ≤ m) {run : IvrRun} (h : IvrInv m run) {e : IvrEvent}
    {before : List IvrEvent} (hlog : e :: before <:+ run.log) :
    FollowsRule m e before ↔ InRow m e.input (before.map IvrEvent.input) := by
  unfold FollowsRule InRow
  rw [ownInputs_map, ← List.map_cons, List.countP_map, streak_map]
  apply forall_congr'
  intro hkind
  have hmarked := (h.marked e.input.kind hkind e.input.caller).suffix
    (hlog.filter fun e' => e'.input.caller = e.input.caller)
  have hown : (e :: before).filter (fun e' => e'.input.caller = e.input.caller) =
      e :: ownEvents e.input.caller before := ownEvents_self e before
  rw [hown] at hmarked
  have hescalated : e.fallback = e.escalated := by
    unfold IvrEvent.escalated
    rw [decide_eq_true hkind, Bool.true_and]
  have hcount := hmarked e _ (List.suffix_refl _) (by simp [IvrEvent.is, IvrInput.is])
  have hstreak := streak_since_iff (e := e) (failureLimit_pos hm _)
    (hmarked.suffix (List.suffix_cons e _))
  rw [hescalated, hcount, hstreak]
  constructor
  · intro hrule hdvd
    exact (hrule.mp hdvd).2
  · intro hrow
    exact ⟨fun hdvd => ⟨hdvd, hrow hdvd⟩, And.left⟩

theorem log_inputs {s₀ : RouteState} {inputs : List IvrInput} {run : IvrRun}
    (hrun : Run (ofFun (ivrStep p)) ⟨s₀, []⟩ inputs run) :
    run.log.map IvrEvent.input = inputs.reverse := by
  apply hrun.trace_invariant
  · rfl
  · rintro ls t x _ _ ih rfl
    rw [List.reverse_append, ← ih]
    rfl

/-- **Escalations**: in a run from a start without failures, every failure is
    answered by the rule exactly when every `m`-th invalid key of a caller
    ends a row of `m` of them, and every second empty input a row of two. -/
theorem escalation_iff {s₀ : RouteState} (hmax : s₀.tables.config.maxInvalidKeys = .int m)
    (hm : 1 ≤ m) (hstart : ∀ kind caller, s₀.tables.failures kind caller = 0)
    {inputs : List IvrInput} {run : IvrRun}
    (hrun : Run (ofFun (ivrStep p)) ⟨s₀, []⟩ inputs run) :
    (∀ e before, e :: before <:+ run.log → FollowsRule m e before) ↔
      ∀ x before, x :: before <:+ inputs.reverse → InRow m x before := by
  have hinv := failures_counted hmax hm hstart hrun
  rw [← log_inputs hrun]
  constructor
  · rintro h x before ⟨later, hlater⟩
    obtain ⟨log₁, log₂, hlog, -, hlast⟩ := List.map_eq_append_iff.mp hlater.symm
    obtain ⟨e, log, rfl, rfl, rfl⟩ := List.map_eq_cons_iff.mp hlast
    have hsuffix : e :: log <:+ run.log := ⟨log₁, hlog.symm⟩
    exact (hinv.followsRule_iff hm hsuffix).mp (h e log hsuffix)
  · intro h e before hsuffix
    exact (hinv.followsRule_iff hm hsuffix).mpr (h _ _ (hsuffix.map IvrEvent.input))

/-- A load starts without failures. -/
theorem loadedState_failures (p : Platform) (reads : Nat) :
    (loadedState p reads).tables.config.maxInvalidKeys = .int 3 ∧
      ∀ kind caller, (loadedState p reads).tables.failures kind caller = 0 := by
  rw [(loadedState_fresh p reads).declared]
  refine ⟨rfl, fun kind caller => ?_⟩
  cases kind <;> rfl

/-- A key without a department. -/
def wrongKey : IvrInput := ⟨some (cstr "4001"), some (cstr "7")⟩

def noKey : IvrInput := ⟨some (cstr "4001"), none⟩

/-- The theorem at three wrong keys after a load. -/
theorem escalation_three :
    ∃ run, Run (ofFun (ivrStep mondayMorning)) ⟨loadedState mondayMorning 0, []⟩
        [wrongKey, wrongKey, wrongKey] run ∧
      ∀ e before, e :: before <:+ run.log → FollowsRule 3 e before := by
  obtain ⟨hmax, hstart⟩ := loadedState_failures mondayMorning 0
  have hrun : Run (ofFun (ivrStep mondayMorning)) ⟨loadedState mondayMorning 0, []⟩
      [wrongKey, wrongKey, wrongKey] _ := run_ofFun_iff.mpr rfl
  refine ⟨_, hrun, (escalation_iff hmax (by decide) hstart hrun).mpr ?_⟩
  intro x before hsuffix
  rw [show [wrongKey, wrongKey, wrongKey].reverse = [wrongKey, wrongKey, wrongKey] from rfl]
    at hsuffix
  simp only [List.suffix_cons_iff, List.suffix_nil, reduceCtorEq, or_false, List.cons.injEq]
    at hsuffix
  rcases hsuffix with ⟨rfl, rfl⟩ | ⟨rfl, rfl⟩ | ⟨rfl, rfl⟩
  · decide +kernel
  · decide +kernel
  · decide +kernel

/-- A wrong key after an empty input is the third one, but not in a row. -/
theorem escalation_interrupted :
    ¬ ∀ (p : Platform) (m : Nat) (s₀ : RouteState) (inputs : List IvrInput) (run : IvrRun),
      s₀.tables.config.maxInvalidKeys = .int m → 1 ≤ m →
      (∀ kind caller, s₀.tables.failures kind caller = 0) →
      Run (ofFun (ivrStep p)) ⟨s₀, []⟩ inputs run →
        ∀ e before, e :: before <:+ run.log → FollowsRule m e before := by
  intro h
  obtain ⟨hmax, hstart⟩ := loadedState_failures mondayMorning 0
  have hrun : Run (ofFun (ivrStep mondayMorning)) ⟨loadedState mondayMorning 0, []⟩
      [wrongKey, wrongKey, noKey, wrongKey] _ := run_ofFun_iff.mpr rfl
  have hinv := failures_counted hmax (by decide) hstart hrun
  have hrule := h mondayMorning 3 _ _ _ hmax (by decide) hstart hrun _ _ (List.suffix_refl _)
  rw [hinv.followsRule_iff (by decide) (List.suffix_refl _)] at hrule
  have hrow : InRow 3 wrongKey [noKey, wrongKey, wrongKey] := hrule
  exact absurd hrow (by decide +kernel)

end Route
