import CallCenter.Route.Loading

/-! # Extensions and Their Spellings

    `find_department` and `is_external_caller` compare the value of
    `tonumber` with the ranges, but `AGENT_STATUS` is indexed by text.  The
    two agree on four decimal digits and on no other spelling of a number.

    * Section 1: the provisioned extensions (`provisioned_iff`).
    * Section 2: who counts as internal (`internal_caller_iff`).
    * Section 3: whom an internal call reaches (`internal_call_iff`). -/

namespace Route

open CFormat Lua Script

/-! ## Section 1: Provisioned extensions -/

/-- The text is that of a number in the range of a department. -/
def Provisioned (key : CStr) : Prop :=
  ∃ d ∈ departments, ∃ ext, d.2.rangeStart ≤ ext ∧ ext ≤ d.2.rangeEnd ∧ key = natText ext

/-- A table with an agent for every provisioned extension and no other. -/
def AgentTable.Staffed (agents : AgentTable) : Prop :=
  ∀ key, (agents.lookup key).isSome ↔ Provisioned key

/-- The extensions have four digits. -/
theorem range_bounds : ∀ d ∈ departments, 1000 ≤ d.2.rangeStart ∧ d.2.rangeEnd ≤ 9999 := by
  decide +kernel

/-- No extension begins with 400. -/
theorem range_not_hotline : ∀ d ∈ departments, d.2.rangeEnd < 4000 ∨ 4009 < d.2.rangeStart := by
  decide +kernel

/-- `init_agent_status` makes the agents of the provisioned extensions. -/
theorem FreshTables.staffed {p : Platform} {t : RouteTables} (h : FreshTables p t) :
    t.agents.Staffed := by
  intro key
  constructor
  · intro hsome
    obtain ⟨agent, hagent⟩ := Option.isSome_iff_exists.mp hsome
    obtain ⟨-, -, -, d, hd, ext, hlo, hhi, hkey, -⟩ := h.fresh key agent hagent
    exact ⟨d, hd, ext, hlo, hhi, hkey⟩
  · rintro ⟨d, hd, ext, hlo, hhi, rfl⟩
    exact h.provisioned d hd ext hlo hhi

/-- `set_agent_state` keeps the extensions. -/
theorem AgentTable.Staffed.alter {agents : AgentTable} (h : agents.Staffed) (extension : CStr)
    (f : Agent → Agent) (hf : ∀ a, (f a).extension = a.extension) :
    (agents.alter extension f hf).Staffed := by
  intro key
  rw [← h key]
  show ((if key = extension then (agents.lookup key).map f else agents.lookup key)).isSome ↔ _
  split
  · rw [Option.isSome_map]
  · exact Iff.rfl

theorem contains_int (d : Department) (n : Nat) :
    d.contains (.int n) = true ↔ d.rangeStart ≤ n ∧ n ≤ d.rangeEnd := by
  simp [Department.contains]

/-- A number in a range has four digits before its point. -/
theorem contains_bounds {d : CStr × Department} (hd : d ∈ departments) {num : LuaNumber}
    (h : d.2.contains num = true) :
    num.lt (.int 1000) = false ∧ (LuaNumber.int 9999).lt num = false := by
  obtain ⟨hlo, hhi⟩ := range_bounds d hd
  obtain ⟨hstart, hend⟩ := (Bool.and_eq_true _ _).mp h
  exact ⟨lt_int_of_int_le (by omega) hstart, int_lt_of_le_int (by omega) hend⟩

theorem findDepartment_isSome {key : CStr} :
    (findDepartment key).isSome ↔
      ∃ num, tonumber key = some num ∧ ∃ d ∈ departments, d.2.contains num = true := by
  unfold findDepartment
  cases htext : tonumber key with
  | none => simp
  | some num =>
    dsimp only
    rw [List.find?_isSome]
    simp

/-- **Text and value** agree on four decimal digits. -/
theorem provisioned_iff {key : CStr} :
    Provisioned key ↔ FourDigits key ∧ (findDepartment key).isSome := by
  rw [findDepartment_isSome]
  constructor
  · rintro ⟨d, hd, ext, hlo, hhi, rfl⟩
    obtain ⟨hstart, hend⟩ := range_bounds d hd
    have hfour : FourDigits (natText ext) := fourDigits_natText (by omega) (by omega)
    refine ⟨hfour, .int ext, ?_, d, hd, (contains_int d.2 ext).mpr ⟨hlo, hhi⟩⟩
    rw [tonumber_fourDigits hfour, digitsValue_natText]
  · rintro ⟨hfour, num, hnum, d, hd, hcontains⟩
    rw [tonumber_fourDigits hfour] at hnum
    obtain rfl := Option.some.inj hnum
    obtain ⟨hlo, hhi⟩ := (contains_int d.2 _).mp hcontains
    obtain ⟨hstart, -⟩ := range_bounds d hd
    exact ⟨d, hd, _, hlo, hhi, hfour.eq_natText (by omega)⟩

/-- No extension is taken for the hotline. -/
theorem Provisioned.not_hotline {key : CStr} (h : Provisioned key) :
    key.take 3 ≠ cstr "400" := by
  obtain ⟨d, hd, ext, hlo, hhi, rfl⟩ := h
  obtain ⟨hstart, hend⟩ := range_bounds d hd
  have hfour : FourDigits (natText ext) := fourDigits_natText (by omega) (by omega)
  obtain ⟨a, b, c, e, hkey, -, -, -, he⟩ := hfour.split
  intro htake
  have hvalue := digitsValue_natText ext
  rw [hkey] at htake hvalue
  obtain ⟨rfl, rfl, rfl⟩ : a = 52 ∧ b = 48 ∧ c = 48 := by
    simpa [show cstr "400" = [52, 48, 48] by decide] using htake
  have hdigit := (digitByte_value he).2
  have hfirst := (digitsValue_four (by decide) (by decide) (by decide) he).1.symm.trans hvalue
  rcases range_not_hotline d hd with h | h <;> simp at hfirst <;> omega

/-! ## Section 2: Internal callers -/

/-- The test of `is_external_caller`. -/
theorem isExternalCaller_eq_false {callerId : CStr} :
    isExternalCaller (some callerId) = false ↔
      callerId.take 3 ≠ cstr "400" ∧ (findDepartment callerId).isSome := by
  rw [findDepartment_isSome]
  unfold isExternalCaller
  by_cases hempty : callerId = []
  · subst hempty
    simp [show tonumber [] = none by decide +kernel]
  · dsimp only
    rw [if_neg hempty]
    by_cases hhotline : callerId.take 3 = cstr "400"
    · simp [hhotline]
    · rw [if_neg hhotline]
      cases htext : tonumber callerId with
      | none => simp
      | some num =>
        dsimp only
        cases hany : departments.any fun d => d.2.contains num with
        | true =>
          obtain ⟨d, hd, hcontains⟩ := List.any_eq_true.mp hany
          obtain ⟨hlo, hhi⟩ := contains_bounds hd hcontains
          rw [hlo, hhi]
          exact iff_of_true rfl ⟨hhotline, num, rfl, d, hd, hcontains⟩
        | false =>
          refine iff_of_false (by simp) ?_
          rintro ⟨-, num', hnum, hcontains⟩
          obtain rfl := Option.some.inj hnum
          rw [List.any_eq_true.mpr hcontains] at hany
          cases hany

/-- **Internal callers**: a text counts as internal exactly when it is the key
    of an agent, as far as the numerals in a range are written with four
    decimal digits. -/
theorem internal_caller_iff (p : Platform) (reads : Nat) (callerId : CStr) :
    (isExternalCaller (some callerId) = false ↔
        ((loadedState p reads).tables.agents.lookup callerId).isSome) ↔
      (callerId.take 3 ≠ cstr "400" → (findDepartment callerId).isSome → FourDigits callerId) := by
  rw [isExternalCaller_eq_false, (loadedState_fresh p reads).staffed callerId]
  constructor
  · intro h hhotline hrange
    exact (provisioned_iff.mp (h.mp ⟨hhotline, hrange⟩)).1
  · intro h
    constructor
    · rintro ⟨hhotline, hrange⟩
      exact provisioned_iff.mpr ⟨h hhotline hrange, hrange⟩
    · intro hprov
      exact ⟨hprov.not_hotline, (provisioned_iff.mp hprov).2⟩

/-- A fraction between two extensions counts as an internal caller. -/
theorem internal_caller_fraction :
    ¬ ∀ (p : Platform) (reads : Nat) (callerId : CStr),
      isExternalCaller (some callerId) = false ↔
        ((loadedState p reads).tables.agents.lookup callerId).isSome := by
  intro h
  have hinternal : isExternalCaller (some (cstr "1001.5")) = false := by decide +kernel
  have hkey := (h mondayMorning 0 (cstr "1001.5")).mp hinternal
  rw [(loadedState_fresh mondayMorning 0).staffed, provisioned_iff] at hkey
  exact absurd hkey.1.1 (by decide)

/-! ## Section 3: Internal calls -/

/-- A callee that can be reached: provisioned, and neither offline nor
    talking. -/
def CanAnswer (agents : AgentTable) (target : CStr) : Prop :=
  ∃ agent, agents.lookup target = some agent ∧ agent.state ≠ .offline ∧ agent.state ≠ .talking

/-- A call with both numbers in a range is answered from the table. -/
theorem deptInternalCallRoute_found (p : Platform) (s : RouteState) {caller callee : CStr}
    {callerDept calleeDept : CStr × Department} (hcaller : findDepartment caller = some callerDept)
    (hcallee : findDepartment callee = some calleeDept) :
    Returns (deptInternalCallRoute p (some caller) (some callee)) s fun a _ =>
      a.target = (if (s.tables.agents.lookup callee).map Agent.state = some .offline then
          calleeDept.2.short else callee) ∧
      (a.code = 0 ↔ (s.tables.agents.lookup callee).map Agent.state ≠ some .offline ∧
        (s.tables.agents.lookup callee).map Agent.state ≠ some .talking) := by
  obtain ⟨num, hnum, d, hd, hcontains⟩ := findDepartment_isSome.mp (by rw [hcallee]; rfl)
  obtain ⟨hlo, hhi⟩ := contains_bounds hd hcontains
  unfold deptInternalCallRoute
  simp only [Option.bind_some, hcaller, concatOperand, pure_bind, hnum, hlo, hhi, hcallee]
  apply Returns.bind (Returns.of_eq (outcome_logCall p s _ _ _ _) rfl)
    (Q := fun _ s' => s'.tables = s.tables)
  rintro _ s₁ hs₁
  apply Returns.bind (Returns.of_eq (outcome_getTables s₁) rfl)
    (Q := fun t _ => t = s₁.tables)
  rintro _ s₂ rfl
  rw [hs₁, if_neg (by decide)]
  generalize (s.tables.agents.lookup callee).map Agent.state = state
  by_cases hoffline : state = some .offline
  · rw [if_pos hoffline, if_pos hoffline]
    exact Returns.pure ⟨rfl, by simp [makeResponse, hoffline]⟩
  · rw [if_neg hoffline, if_neg hoffline]
    by_cases htalking : state = some .talking
    · rw [if_pos htalking]
      exact Returns.pure ⟨rfl, by simp [makeResponse, htalking]⟩
    · rw [if_neg htalking]
      exact Returns.pure ⟨rfl, by simp [makeResponse, hoffline, htalking]⟩

/-- A call with another number is not put through. -/
theorem deptInternalCallRoute_refused (p : Platform) (s : RouteState) {caller callee : CStr}
    (h : findDepartment caller = none ∨ findDepartment callee = none) :
    Returns (deptInternalCallRoute p (some caller) (some callee)) s fun a _ => a.code = 1 := by
  unfold deptInternalCallRoute
  simp only [Option.bind_some, concatOperand, pure_bind]
  apply Returns.bind (Returns.of_eq (outcome_logCall p s _ _ _ _) trivial)
    (Q := fun _ _ => True)
  rintro _ s₁ -
  apply Returns.bind (Returns.of_eq (outcome_getTables s₁) trivial) (Q := fun _ _ => True)
  rintro t s₂ -
  cases hcaller : findDepartment caller with
  | none => exact Returns.pure rfl
  | some callerDept =>
    have hcallee : findDepartment callee = none := by
      rcases h with h | h
      · rw [hcaller] at h
        cases h
      · exact h
    rw [hcallee]
    cases tonumber callee with
    | none => exact Returns.pure rfl
    | some num =>
      dsimp only
      split
      · exact Returns.pure rfl
      · exact Returns.pure rfl

/-- **Internal calls**: whoever is put through reaches an agent who is neither
    offline nor talking, exactly as far as a callee in a range is written with
    four decimal digits. -/
theorem internal_call_iff (p : Platform) (s : RouteState) (hstaffed : s.tables.agents.Staffed)
    (caller callee : CStr) :
    (∀ a, (outcome (deptInternalCallRoute p (some caller) (some callee)) s).1 = .ok a →
      a.code = 0 → CanAnswer s.tables.agents a.target) ↔
    ((findDepartment caller).isSome → (findDepartment callee).isSome → FourDigits callee) := by
  constructor
  · intro h hcaller hcallee
    obtain ⟨callerDept, hcaller⟩ := Option.isSome_iff_exists.mp hcaller
    obtain ⟨calleeDept, hcallee'⟩ := Option.isSome_iff_exists.mp hcallee
    obtain ⟨a, s', hrun, htarget, hcode⟩ := deptInternalCallRoute_found p s hcaller hcallee'
    cases hagent : s.tables.agents.lookup callee with
    | some agent =>
      exact (provisioned_iff.mp ((hstaffed callee).mp (by rw [hagent]; rfl))).1
    | none =>
      -- without an agent there is no state, and the call is put through
      rw [hagent] at htarget hcode
      have hanswer := h a (by rw [hrun]) (hcode.mpr ⟨nofun, nofun⟩)
      obtain ⟨agent, hfound, -⟩ := hanswer
      rw [htarget, if_neg nofun, hagent] at hfound
      cases hfound
  · intro h a ha hsuccess
    by_cases hrefused : findDepartment caller = none ∨ findDepartment callee = none
    · obtain ⟨b, s', hrun, hcode⟩ := deptInternalCallRoute_refused p s hrefused
      rw [hrun] at ha
      obtain rfl := Except.ok.inj ha
      omega
    · obtain ⟨hfrom, hto⟩ := not_or.mp hrefused
      obtain ⟨callerDept, hcaller⟩ := Option.ne_none_iff_exists'.mp hfrom
      obtain ⟨calleeDept, hcallee⟩ := Option.ne_none_iff_exists'.mp hto
      obtain ⟨b, s', hrun, htarget, hcode⟩ := deptInternalCallRoute_found p s hcaller hcallee
      rw [hrun] at ha
      obtain rfl := Except.ok.inj ha
      obtain ⟨hoffline, htalking⟩ := hcode.mp hsuccess
      have hfour := h (by rw [hcaller]; rfl) (by rw [hcallee]; rfl)
      have hprov := provisioned_iff.mpr ⟨hfour, by rw [hcallee]; rfl⟩
      obtain ⟨agent, hagent⟩ := Option.isSome_iff_exists.mp ((hstaffed callee).mpr hprov)
      rw [if_neg hoffline] at htarget
      rw [hagent] at hoffline htalking
      refine ⟨agent, by rw [htarget, hagent], ?_, ?_⟩
      · exact fun hstate => hoffline (congrArg some hstate)
      · exact fun hstate => htalking (congrArg some hstate)

/-- A call between two extensions, right after a load. -/
theorem internal_call_loaded :
    ∃ a, (outcome (deptInternalCallRoute mondayMorning (some (cstr "1001")) (some (cstr "1002")))
        (loadedState mondayMorning 0)).1 = .ok a ∧
      (a.code = 0 → CanAnswer (loadedState mondayMorning 0).tables.agents a.target) := by
  obtain ⟨callerDept, hcaller⟩ : ∃ d, findDepartment (cstr "1001") = some d :=
    Option.isSome_iff_exists.mp (by decide +kernel)
  obtain ⟨calleeDept, hcallee⟩ : ∃ d, findDepartment (cstr "1002") = some d :=
    Option.isSome_iff_exists.mp (by decide +kernel)
  obtain ⟨a, s', hrun, -⟩ :=
    deptInternalCallRoute_found mondayMorning (loadedState mondayMorning 0) hcaller hcallee
  have hanswers := (internal_call_iff mondayMorning (loadedState mondayMorning 0)
    (loadedState_fresh mondayMorning 0).staffed (cstr "1001") (cstr "1002")).mpr
      fun _ _ => ⟨by decide, by decide⟩
  have hresult : (outcome (deptInternalCallRoute mondayMorning (some (cstr "1001"))
      (some (cstr "1002"))) (loadedState mondayMorning 0)).1 = .ok a := by rw [hrun]
  exact ⟨a, hresult, hanswers a hresult⟩

/-- A callee with a fraction is put through to nobody. -/
theorem internal_call_fraction :
    ¬ ∀ (p : Platform) (s : RouteState) (caller callee : CStr), s.tables.agents.Staffed →
      ∀ a, (outcome (deptInternalCallRoute p (some caller) (some callee)) s).1 = .ok a →
        a.code = 0 → CanAnswer s.tables.agents a.target := by
  intro h
  have hstaffed := (loadedState_fresh mondayMorning 0).staffed
  have hnone : (loadedState mondayMorning 0).tables.agents.lookup (cstr "1002.0") = none := by
    rw [← Option.not_isSome_iff_eq_none, hstaffed, provisioned_iff]
    exact fun hprov => absurd hprov.1.1 (by decide)
  obtain ⟨callerDept, hcaller⟩ : ∃ d, findDepartment (cstr "1001") = some d :=
    Option.isSome_iff_exists.mp (by decide +kernel)
  obtain ⟨calleeDept, hcallee⟩ : ∃ d, findDepartment (cstr "1002.0") = some d :=
    Option.isSome_iff_exists.mp (by decide +kernel)
  obtain ⟨a, s', hrun, htarget, hcode⟩ :=
    deptInternalCallRoute_found mondayMorning (loadedState mondayMorning 0) hcaller hcallee
  rw [hnone] at htarget hcode
  obtain ⟨agent, hfound, -⟩ := h mondayMorning (loadedState mondayMorning 0) (cstr "1001")
    (cstr "1002.0") hstaffed a (by rw [hrun]) (hcode.mpr ⟨nofun, nofun⟩)
  rw [htarget, if_neg nofun, hnone] at hfound
  cases hfound

end Route
