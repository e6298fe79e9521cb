import CallCenter.Framework.RingLog
import CallCenter.Route.Steps

/-! # The Call Log

    `log_call` writes the entries round a ring of a hundred positions, and
    `get_recent_logs` reads them back in two loops.

    * `LogRun`: the script at work, with the history of all its `log_call`s.
    * `recentLogs_iff`: for which numbers of calls and of entries that are
      asked for the answer is the end of that history. -/

namespace Route

open CFormat Lua Script RingLog

variable {p : Platform}

/-! ## Section 1: The reader -/

/-- `get_recent_logs`; `n` is an integer. -/
def getRecentLogs (n : Option Int) : RouteM (List LogEntry) := do
  let n := n.getD 10
  let s ← get
  let start := max 1 (s.callLogIndex - n + 1)
  let logs := between s.callLog start.toNat s.callLogIndex
  -- the positions from 1 on stand in the answer after the newest entry
  let stop := s.callLogIndex + n - callLogMax - 1
  return logs ++ between (fun i => if i ≤ callLogMax then s.callLog i else none) 1 stop.toNat

/-- `get_call_logs` -/
def getCallLogs (n : Option Int) : RouteM (List LogEntry) := getRecentLogs (some (n.getD 20))

/-- What `get_recent_logs` answers in a state. -/
def RouteState.recentLogs (s : RouteState) (n : Nat) : List LogEntry :=
  between s.callLog (max 1 (s.callLogIndex + 1 - n)) s.callLogIndex ++
    between (fun i => if i ≤ callLogMax then s.callLog i else none) 1
      (s.callLogIndex + n - (callLogMax + 1))

theorem outcome_getRecentLogs (s : RouteState) (n : Nat) :
    outcome (getRecentLogs (some n)) s = (.ok (s.recentLogs n), s) := by
  have hstart : (max 1 ((s.callLogIndex : Int) - n + 1)).toNat =
      max 1 (s.callLogIndex + 1 - n) := by omega
  have hstop : ((s.callLogIndex : Int) + n - callLogMax - 1).toNat =
      s.callLogIndex + n - (callLogMax + 1) := by omega
  unfold RouteState.recentLogs
  rw [← hstart, ← hstop]
  rfl

/-! ## Section 2: Runs -/

/-- A run of the script since its log was declared.  Whatever else the script
    does leaves the log as it is. -/
inductive LogRun (p : Platform) : List LogEntry → RouteState → Prop where
  | start {s : RouteState} (hlog : s.callLog = fun _ => none) (hindex : s.callLogIndex = 0) :
      LogRun p [] s
  | other {h : List LogEntry} {s s' : RouteState} (hrun : LogRun p h s)
      (hlog : s'.callLog = s.callLog) (hindex : s'.callLogIndex = s.callLogIndex) : LogRun p h s'
  | call {h : List LogEntry} {s s' : RouteState} (hrun : LogRun p h s) (level : CStr)
      (callerId : Option CStr) (event detail : CStr)
      (hcall : outcome (logCall p level callerId event detail) s = (.ok (), s')) :
      LogRun p (h ++ [⟨p.clock s.reads, level, callerId.getD (cstr "unknown"), event, detail⟩]) s'

theorem LogRun.holds {h : List LogEntry} {s : RouteState} (hrun : LogRun p h s) :
    ∃ before, Holds callLogMax h s.callLog s.callLogIndex before := by
  induction hrun with
  | start hlog hindex =>
    rw [hlog, hindex]
    exact ⟨0, Holds.empty fun _ => rfl⟩
  | other _ hlog hindex ih => rwa [hlog, hindex]
  | call _ level callerId event detail hcall ih =>
    obtain ⟨before, hholds⟩ := ih
    rw [outcome_logCall] at hcall
    obtain ⟨-, rfl⟩ := Prod.mk.inj hcall
    exact hholds.write (by decide) _

/-- Every number of calls is reached, also with entries that all differ. -/
theorem exists_logRun (p : Platform) (t : Nat) :
    ∃ h s, LogRun p h s ∧ h.length = t ∧ h.Nodup := by
  have hrun : ∃ h s, LogRun p h s ∧
      h.map LogEntry.detail = (List.range t).map natText := by
    induction t with
    | zero => exact ⟨[], ⟨.declared, fun _ => none, 0, 0⟩, .start rfl rfl, rfl⟩
    | succ t ih =>
      obtain ⟨h, s, hrun, hdetails⟩ := ih
      refine ⟨_, _, hrun.call [] none [] (natText t) (outcome_logCall p s _ _ _ _), ?_⟩
      rw [List.map_append, hdetails, List.range_succ, List.map_append]
      rfl
  obtain ⟨h, s, hrun, hdetails⟩ := hrun
  refine ⟨h, s, hrun, ?_, ?_⟩
  · have hlen := congrArg List.length hdetails
    simpa using hlen
  · apply List.Nodup.of_map LogEntry.detail
    rw [hdetails]
    exact List.nodup_range.map (Function.LeftInverse.injective digitsValue_natText)

/-! ## Section 3: The end of the history -/

/-- `get_recent_logs(n)` is right after `t` calls: the second loop finds
    nothing, and the first one reaches back far enough. -/
def ReadsBack (t n : Nat) : Prop :=
  t = 0 ∨
    position callLogMax t + n ≤ callLogMax + 1 ∧ (t ≤ callLogMax ∨ n ≤ position callLogMax t)

instance (t n : Nat) : Decidable (ReadsBack t n) := inferInstanceAs (Decidable (_ ∨ _))

section Reading

variable {h : List LogEntry} {s : RouteState} {n : Nat}

/-- The first loop. -/
theorem between_newest {before : Nat} (hh : Holds callLogMax h s.callLog s.callLogIndex before) :
    between s.callLog (max 1 (s.callLogIndex + 1 - n)) s.callLogIndex =
      h.rtake (min n s.callLogIndex) := by
  rw [hh.between_current (by omega) (by omega)]
  congr 1
  omega

theorem recentLogs_eq (hrun : LogRun p h s) (hreads : ReadsBack h.length n) :
    s.recentLogs n = h.rtake (min n callLogMax) := by
  obtain ⟨before, hh⟩ := hrun.holds
  have hlen := hh.length_eq
  have hmax : callLogMax = 100 := rfl
  unfold RouteState.recentLogs
  rw [between_newest hh]
  obtain hzero | ⟨hstop, hlap⟩ := hreads
  -- an empty log, in which no position is filled
  · obtain rfl := List.length_eq_zero_iff.mp hzero
    have hnone : between (fun i => if i ≤ callLogMax then s.callLog i else none) 1
        (s.callLogIndex + n - (callLogMax + 1)) = [] := by
      apply List.filterMap_eq_nil_iff.mpr
      intro i hi
      have hpos := (List.mem_range'_1.mp hi).1
      split
      · next hle =>
        rw [hh.earlier i (by omega) hle, if_pos (by omega)]
      · rfl
    rw [hnone, List.append_nil, List.rtake_nil, List.rtake_nil]
  · rw [← hh.index_eq] at hstop hlap
    rw [between_eq_nil (by omega), List.append_nil]
    have hindex := hh.index_le
    have hbegun := hh.begun
    have hlaps : before = 0 ∨ callLogMax ≤ before := by
      by_cases hbefore : before = 0
      · exact .inl hbefore
      · exact .inr (Nat.le_of_dvd (Nat.pos_of_ne_zero hbefore) hh.laps)
    unfold List.rtake
    congr 1
    omega

/-- If all entries differ, no other answer is right. -/
theorem readsBack_of_recentLogs (hrun : LogRun p h s) (hnodup : h.Nodup)
    (heq : s.recentLogs n = h.rtake (min n callLogMax)) : ReadsBack h.length n := by
  obtain ⟨before, hh⟩ := hrun.holds
  have hlen := hh.length_eq
  have hindex := hh.index_le
  have hbegun := hh.begun
  have hmax : callLogMax = 100 := rfl
  by_contra hnot
  unfold ReadsBack at hnot
  rw [← hh.index_eq, not_or] at hnot
  unfold RouteState.recentLogs at heq
  rw [between_newest hh] at heq
  by_cases hall : min (min n callLogMax) h.length ≤ min n s.callLogIndex
  -- the first loop has found everything, and the second one adds to it
  · have hle : 1 ≤ s.callLogIndex + n - (callLogMax + 1) := by omega
    have hmore : between (fun i => if i ≤ callLogMax then s.callLog i else none) 1
        (s.callLogIndex + n - (callLogMax + 1)) ≠ [] :=
      between_ne_nil hle (hh.first_isSome (List.length_pos_iff.mp (by omega)))
    have hpos := List.length_pos_iff.mpr hmore
    have hlength := congrArg List.length heq
    rw [List.length_append, List.rtake, List.rtake, List.length_drop, List.length_drop] at hlength
    omega
  -- the first loop begins too late
  · have hhead := congrArg (·[0]?) heq
    simp only [List.rtake] at hhead
    rw [List.getElem?_append_left (by rw [List.length_drop]; omega), List.getElem?_drop,
      List.getElem?_drop] at hhead
    exact List.nodup_iff_getElem?_ne_getElem?.mp hnodup _ _ (by omega) (by omega) hhead.symm

end Reading

/-- The answer is the end of the history, in its order, exactly for these
    numbers of calls and of entries that are asked for. -/
theorem recentLogs_iff (p : Platform) (t n : Nat) :
    (∀ h s, LogRun p h s → h.length = t →
      outcome (getRecentLogs (some n)) s = (.ok (h.rtake (min n callLogMax)), s)) ↔
      ReadsBack t n := by
  constructor
  · intro hright
    obtain ⟨h, s, hrun, hlength, hnodup⟩ := exists_logRun p t
    have heq := hright h s hrun hlength
    rw [outcome_getRecentLogs] at heq
    have hreads := readsBack_of_recentLogs hrun hnodup (Except.ok.inj (Prod.mk.inj heq).1)
    rwa [hlength] at hreads
  · rintro hreads h s hrun rfl
    rw [outcome_getRecentLogs, recentLogs_eq hrun hreads]

/-- After the hundred and first call, ten entries are asked for. -/
theorem recentLogs_wrapped :
    ¬ ∀ (p : Platform) (h : List LogEntry) (s : RouteState) (n : Nat), LogRun p h s → 1 ≤ n →
      outcome (getRecentLogs (some n)) s = (.ok (h.rtake (min n callLogMax)), s) := by
  intro hright
  obtain ⟨h, s, hrun, hlength, hnodup⟩ := exists_logRun (.steady 0 ⟨2, 9, 0⟩) 101
  have heq := hright _ h s 10 hrun (by decide)
  rw [outcome_getRecentLogs] at heq
  have hreads := readsBack_of_recentLogs hrun hnodup (Except.ok.inj (Prod.mk.inj heq).1)
  rw [hlength] at hreads
  exact absurd hreads (by decide)

end Route
