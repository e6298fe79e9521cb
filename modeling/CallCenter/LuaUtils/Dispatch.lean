import CallCenter.Framework.CMemory
import CallCenter.Framework.LuaApi
import CallCenter.LuaUtils.CallRoute

/-! # Calls with a Format

    `lua_vm_route_dispatch` and `lua_vm_call_function` of `lua_utils.c` push
    one argument for each character of a format that they know, but count
    every character.  A character they do not know therefore makes
    `lua_pcall` take a slot too many from the stack.  The two functions know
    different characters: `'f'` is one of `lua_vm_call_function` only.

    They do not ask for room either (`lua_checkstack`).  A long format, or a
    stack that the caller has filled, is written beyond the slots of the
    stack.

    Modelling decisions:
    * The pointers `vm`, `vm->L` and `response` are not NULL; without a
      `lua_State` there is no stack.
    * The variable arguments are those that the format asks for; a missing
      one is pushed as nil. -/

namespace LuaUtils

open CFormat CMemory LuaApi

/-! ## Section 1: The functions -/

/-- A variable argument: `const char *`, `int` or `double`. -/
inductive VaArg where
  | str (s : Option CStr)
  | int (i : Int32)
  | double (d : BitVec 64)
  deriving DecidableEq, Repr

section Values

variable {F T : Type}

/-- `lua_pushstring`, of NULL too. -/
def pushedString : Option VaArg → Value F T
  | some (.str (some s)) => .str (text s)
  | _ => .nil

/-- `lua_pushinteger` -/
def pushedInteger : Option VaArg → Value F T
  | some (.int i) => .integer i.toInt
  | _ => .nil

/-- `lua_pushnumber` -/
def pushedNumber : Option VaArg → Value F T
  | some (.double d) => .number d
  | _ => .nil

/-- The characters of a format, with what they push; `none` is the `default`
    of the `switch`. -/
abbrev Conversions (F T : Type) : Type := UInt8 → Option (Option VaArg → Value F T)

/-- The `switch` of `lua_vm_route_dispatch`. -/
def routeDispatchConversions : Conversions F T := fun c =>
  if c = 's'.toUInt8 then some pushedString
  else if c = 'd'.toUInt8 then some pushedInteger
  else none

/-- The `switch` of `lua_vm_call_function`. -/
def callFunctionConversions : Conversions F T := fun c =>
  if c = 's'.toUInt8 then some pushedString
  else if c = 'd'.toUInt8 then some pushedInteger
  else if c = 'f'.toUInt8 then some pushedNumber
  else none

end Values

variable {F T σ : Type}

/-- The loop over the format: the stack and `nargs`. -/
def pushArgs (conversions : Conversions F T) :
    CStr → List VaArg → State F T σ → Nat → State F T σ × Nat
  | [], _, L, nargs => (L, nargs)
  | c :: fmt, args, L, nargs =>
    match conversions c with
    | some value => pushArgs conversions fmt args.tail (L.push (value args.head?)) (nargs + 1)
    -- nothing is pushed, but it is counted
    | none => pushArgs conversions fmt args L (nargs + 1)

/-- `if (fmt) { … }` -/
def pushFormat (conversions : Conversions F T) (fmt : Option CStr) (args : List VaArg)
    (L : State F T σ) : State F T σ × Nat :=
  match fmt with
  | none => (L, 0)
  | some fmt => pushArgs conversions (text fmt) args L 0

/-- `if (s) strncpy(dst, s, cap - 1)` for the string field `name` of the table
    on top of the stack. -/
def stringField (I : Interp F T σ) (L : State F T σ) (cap : Nat) (name : CStr) :
    CStr × State F T σ :=
  let L := L.getfield I name
  (strncpyField cap (I.tostring L.top), L.pop)

/-- The four fields of the table on top of the stack. -/
def readFields (I : Interp F T σ) (L : State F T σ) : RouteResponse × State F T σ :=
  let L := L.getfield I (cstr "code")
  let code := Int32.ofInt (I.tointeger L.top)
  let L := L.pop
  let (targetExtension, L) := stringField I L maxExtensionLen (cstr "target")
  let (department, L) := stringField I L maxDeptNameLen (cstr "department")
  let (description, L) := stringField I L maxRouteDescLen (cstr "description")
  ({ code, targetExtension, department, description }, L)

/-- The response after an error. -/
def errorResponse : RouteResponse :=
  { RouteResponse.zero with code := Int32.ofInt RouteResult.error.code }

/-- `lua_vm_route_dispatch`: the return value, the response and the stack. -/
def luaVmRouteDispatch (I : Interp F T σ) (funcName : Option CStr) (response : RouteResponse)
    (fmt : Option CStr) (args : List VaArg) (L : State F T σ) :
    Int32 × RouteResponse × State F T σ :=
  match funcName with
  | none => (-1, response, L)
  | some name =>
    let L := L.getglobal I name
    if L.top.isfunction = false then (-1, errorResponse, L.pop)
    else
      let (L, nargs) := pushFormat routeDispatchConversions fmt args L
      match L.pcall I.call nargs 1 with
      | (false, L) => (-1, errorResponse, L.pop)
      | (true, L) =>
        if L.top.istable = false then (-1, errorResponse, L.pop)
        else
          let (response, L) := readFields I L
          (response.code, response, L.pop)

/-- `lua_vm_call_function`: the return value and the stack. -/
def luaVmCallFunction (I : Interp F T σ) (funcName fmt : Option CStr) (args : List VaArg)
    (L : State F T σ) : Int32 × State F T σ :=
  match funcName with
  | none => (-1, L)
  | some name =>
    let L := L.getglobal I name
    if L.top.isfunction = false then (-1, L.pop)
    else
      let (L, nargs) := pushFormat callFunctionConversions fmt args L
      match L.pcall I.call nargs 1 with
      | (false, L) => (-1, L.pop)
      -- the value stays for the caller
      | (true, L) => (0, L)

/-! ## Section 2: Balance -/

/-- Each protected call since `L` is made with as many arguments as were
    pushed on the function. -/
def CountsMatch (L L' : State F T σ) : Prop :=
  ∀ call ∈ L'.pcalls.drop L.pcalls.length, call.height = L.stack.length + 1 + call.nargs

/-- What `lua_vm_route_dispatch` should do with the stack. -/
structure DispatchBalanced (L : State F T σ) (result : Int32 × RouteResponse × State F T σ) :
    Prop where
  counts : CountsMatch L result.2.2
  height : result.2.2.stack.length = L.stack.length
  /-- No value is written where the stack has no slot. -/
  inside : result.2.2.overruns = L.overruns

/-- What `lua_vm_call_function` should do with the stack. -/
structure CallBalanced (L : State F T σ) (result : Int32 × State F T σ) : Prop where
  counts : CountsMatch L result.2
  success : result.1 = 0 → result.2.stack.length = L.stack.length + 1
  failure : result.1 ≠ 0 → result.2.stack.length = L.stack.length
  inside : result.2.overruns = L.overruns

/-- The characters of a format; NULL has none. -/
def formatText (fmt : Option CStr) : CStr := (fmt.map text).getD []

/-- The function knows every character of the format, or the global is not a
    function at all. -/
def FormatKnown (I : Interp F T σ) (conversions : Conversions F T) (L : State F T σ)
    (funcName fmt : Option CStr) : Prop :=
  ∀ name, funcName = some name → (I.global L.script name).isfunction = true →
    ∀ c ∈ formatText fmt, (conversions c).isSome

/-- The values of a format, in its order. -/
def formatValues (conversions : Conversions F T) : CStr → List VaArg → List (Value F T)
  | [], _ => []
  | c :: fmt, args =>
    match conversions c with
    | some value => value args.head? :: formatValues conversions fmt args.tail
    | none => formatValues conversions fmt args

/-- The call of `f` returns a table first. -/
def answersTable (I : Interp F T σ) (f : Value F T) (values : List (Value F T)) (s : σ) : Bool :=
  let result := (callValue I.call (some f) values s).1
  result.isOk && ((results 1 result).head?.getD .nil).istable

/-- The slots that `lua_vm_call_function` needs on the stack: the function
    and its arguments. -/
def callSlots (I : Interp F T σ) (L : State F T σ) (funcName fmt : Option CStr)
    (args : List VaArg) : Nat :=
  match funcName with
  | none => 0
  | some name =>
    if (I.global L.script name).isfunction = false then 1
    else
      let values : List (Value F T) := formatValues callFunctionConversions (formatText fmt) args
      1 + values.length

/-- Those that `lua_vm_route_dispatch` needs: a table takes the place of the
    call, and its fields are read one at a time into the slot above. -/
def dispatchSlots (I : Interp F T σ) (L : State F T σ) (funcName fmt : Option CStr)
    (args : List VaArg) : Nat :=
  match funcName with
  | none => 0
  | some name =>
    let f := I.global L.script name
    if f.isfunction = false then 1
    else
      let values := formatValues routeDispatchConversions (formatText fmt) args
      if answersTable I f values L.script then max 2 (1 + values.length) else 1 + values.length

/-! ### What the loop pushes and counts -/

section Loop

variable (conversions : Conversions F T) (args : List VaArg) (L : State F T σ)

theorem pushArgs_eq (fmt : CStr) (nargs : Nat) :
    pushArgs conversions fmt args L nargs =
      (L.pushAll (formatValues conversions fmt args), nargs + fmt.length) := by
  induction fmt generalizing args L nargs with
  | nil => rfl
  | cons c fmt ih =>
    have hcount : nargs + 1 + fmt.length = nargs + (c :: fmt).length := by
      rw [List.length_cons]
      omega
    cases hc : conversions c with
    | none =>
      rw [pushArgs, hc, formatValues, hc]
      dsimp only
      rw [ih, hcount]
    | some value =>
      rw [pushArgs, hc, formatValues, hc]
      dsimp only
      rw [ih, hcount, State.pushAll_cons]

theorem pushFormat_eq (fmt : Option CStr) :
    pushFormat conversions fmt args L =
      (L.pushAll (formatValues conversions (formatText fmt) args), (formatText fmt).length) := by
  cases fmt with
  | none => rfl
  | some s =>
    show pushArgs conversions (text s) args L 0 = _
    rw [pushArgs_eq, Nat.zero_add]
    rfl

theorem formatValues_length (fmt : CStr) :
    (formatValues conversions fmt args).length =
      fmt.countP (fun c => (conversions c).isSome) := by
  induction fmt generalizing args with
  | nil => rfl
  | cons c fmt ih =>
    cases hc : conversions c with
    | none => simp [formatValues, hc, ih]
    | some value => simp [formatValues, hc, ih]

/-- The count is the number of values if and only if every character is
    known. -/
theorem formatValues_length_eq_iff (fmt : CStr) :
    (formatValues conversions fmt args).length = fmt.length ↔
      ∀ c ∈ fmt, (conversions c).isSome := by
  rw [formatValues_length, List.countP_eq_length]

end Loop

section Balance

variable (I : Interp F T σ) (L : State F T σ)

theorem countsMatch_of_eq {L L' : State F T σ} (h : L'.pcalls = L.pcalls) : CountsMatch L L' := by
  intro call hcall
  rw [h, List.drop_length] at hcall
  cases hcall

/-- After one call the counts match if its own does. -/
theorem countsMatch_concat {L L' : State F T σ} {call : Pcall}
    (h : L'.pcalls = L.pcalls ++ [call]) :
    CountsMatch L L' ↔ call.height = L.stack.length + 1 + call.nargs := by
  unfold CountsMatch
  rw [h, List.drop_left]
  simp

/-- The call of a function that stands on `L`, with the arguments of a format
    that is not known: the count is wrong. -/
theorem pcall_unknown {conversions : Conversions F T} {fmt : Option CStr} (args : List VaArg)
    (h : ¬ ∀ c ∈ formatText fmt, (conversions c).isSome) (f : Value F T) {L' : State F T σ}
    (hcalls : L'.pcalls = ((pushFormat conversions fmt args (L.push f)).1.pcall I.call
      (pushFormat conversions fmt args (L.push f)).2 1).2.pcalls) : ¬ CountsMatch L L' := by
  rw [pushFormat_eq, ← State.pushAll_cons] at hcalls
  have hlog : L'.pcalls = L.pcalls ++ [⟨(formatText fmt).length,
      (L.pushAll (f :: formatValues conversions (formatText fmt) args)).stack.length⟩] := by
    rw [hcalls]
    show (L.pushAll _).pcalls ++ _ = _
    rw [State.pushAll_pcalls]
  rw [countsMatch_concat hlog, State.pushAll_stack]
  have hne := mt (formatValues_length_eq_iff conversions args _).mp h
  simp only [List.length_append, List.length_reverse, List.length_cons]
  omega

/-- With a known format the function is called with the values of the format,
    and what it leaves stands on `L`. -/
theorem pcall_known {conversions : Conversions F T} {fmt : Option CStr} (args : List VaArg)
    (h : ∀ c ∈ formatText fmt, (conversions c).isSome) (f : Value F T) :
    ∃ v, ∃ L' : State F T σ,
      (pushFormat conversions fmt args (L.push f)).1.pcall I.call
          (pushFormat conversions fmt args (L.push f)).2 1 =
        ((callValue I.call (some f) (formatValues conversions (formatText fmt) args)
          L.script).1.isOk, L') ∧
      [v] = results 1 (callValue I.call (some f)
        (formatValues conversions (formatText fmt) args) L.script).1 ∧
      L'.stack = v :: L.stack ∧ CountsMatch L L' ∧ L'.limit = L.limit ∧
      L'.overruns = L.overruns + (L.stack.length + 1 +
        (formatValues conversions (formatText fmt) args).length - max L.limit L.stack.length) := by
  have hlen := (formatValues_length_eq_iff conversions args _).mpr h
  rw [pushFormat_eq, ← State.pushAll_cons, ← hlen, State.pcall_pushAll]
  generalize formatValues conversions (formatText fmt) args = values
  obtain ⟨v, hv⟩ : ∃ v, results 1 (callValue I.call (some f) values L.script).1 = [v] := by
    apply List.length_eq_one_iff.mp
    rw [results_length]
    split <;> rfl
  refine ⟨v, _, rfl, hv.symm, ?_, (countsMatch_concat rfl).mpr rfl,
    L.pushAll_limit (f :: values), ?_⟩
  · show results 1 _ ++ L.stack = _
    rw [hv]
    rfl
  · show (L.pushAll (f :: values)).overruns = _
    rw [State.pushAll_overruns, List.length_cons]
    omega

/-- Each of the four fields is read into the slot above the table. -/
theorem readFields_snd : (readFields I L).2 = L.useSlot.useSlot.useSlot.useSlot := by
  simp [readFields, stringField]

theorem formatKnown_function {conversions : Conversions F T} {name : CStr} {fmt : Option CStr}
    (hfun : (I.global L.script name).isfunction = true) :
    FormatKnown I conversions L (some name) fmt ↔
      ∀ c ∈ formatText fmt, (conversions c).isSome := by
  unfold FormatKnown
  simp [hfun]

theorem useSlot_overruns_iff : L.useSlot.overruns = L.overruns ↔ L.HasRoom 1 := by
  rw [State.useSlot_overruns]
  unfold State.HasRoom
  omega

/-- Each of the three exits pops the one value that the call has left. -/
theorem dispatch_stack {name : CStr} (hfun : (I.global L.script name).isfunction = true)
    (response : RouteResponse) {fmt : Option CStr} {args : List VaArg} {ok : Bool}
    {L' : State F T σ}
    (hcall : (pushFormat routeDispatchConversions fmt args
      (L.push (I.global L.script name))).1.pcall I.call
        (pushFormat routeDispatchConversions fmt args (L.push (I.global L.script name))).2 1 =
          (ok, L')) :
    (luaVmRouteDispatch I (some name) response fmt args L).2.2 =
      if ok && L'.top.istable then L'.useSlot.useSlot.useSlot.useSlot.pop else L'.pop := by
  unfold luaVmRouteDispatch
  simp only [State.getglobal_eq, State.push_top, hfun, Bool.true_eq_false, if_false, hcall]
  cases ok with
  | false => rfl
  | true => cases htable : L'.top.istable <;> simp [htable, readFields_snd]

/-- On a path with a matching call and the old stack only the room matters. -/
theorem dispatchBalanced_iff_inside {L : State F T σ} {result : Int32 × RouteResponse × State F T σ}
    (hcounts : CountsMatch L result.2.2) (hstack : result.2.2.stack = L.stack) :
    DispatchBalanced L result ↔ result.2.2.overruns = L.overruns := by
  constructor
  · exact fun h => h.inside
  · exact fun h => ⟨hcounts, by rw [hstack], h⟩

/-- A function that is called with a format that is known. -/
theorem dispatchBalanced_called {name : CStr} (hfun : (I.global L.script name).isfunction = true)
    (response : RouteResponse) {fmt : Option CStr} (args : List VaArg)
    (hknown : ∀ c ∈ formatText fmt, (routeDispatchConversions (F := F) (T := T) c).isSome) :
    DispatchBalanced L (luaVmRouteDispatch I (some name) response fmt args L) ↔
      L.HasRoom (dispatchSlots I L (some name) fmt args) := by
  obtain ⟨v, L', hpcall, hv, hstack, hcounts, hlimit, hover⟩ :=
    pcall_known I L args hknown (I.global L.script name)
  have hrun := dispatch_stack I L hfun response hpcall
  have htop : L'.top = v := by rw [State.top, hstack]; rfl
  rw [htop] at hrun
  have hslots : dispatchSlots I L (some name) fmt args =
      if (callValue I.call (some (I.global L.script name))
          (formatValues routeDispatchConversions (formatText fmt) args) L.script).1.isOk &&
          v.istable
      then max 2 (1 + (formatValues (F := F) (T := T) routeDispatchConversions (formatText fmt)
        args).length)
      else 1 + (formatValues (F := F) (T := T) routeDispatchConversions (formatText fmt)
        args).length := by
    simp [dispatchSlots, answersTable, hfun, ← hv]
  rw [hslots]
  -- only a table is read from, on top of the call's value
  split at hrun
  case isTrue htable =>
    rw [if_pos htable, dispatchBalanced_iff_inside]
    · rw [hrun]
      show L'.useSlot.useSlot.useSlot.useSlot.overruns = _ ↔ _
      simp only [State.useSlot_overruns, State.useSlot_limit, State.useSlot_stack, hstack, hlimit,
        hover, List.length_cons]
      unfold State.HasRoom
      omega
    · rw [hrun]
      exact hcounts
    · rw [hrun]
      exact congrArg List.tail hstack
  case isFalse htable =>
    rw [if_neg htable, dispatchBalanced_iff_inside]
    · rw [hrun]
      show L'.overruns = _ ↔ _
      rw [hover]
      unfold State.HasRoom
      omega
    · rw [hrun]
      exact hcounts
    · rw [hrun]
      exact congrArg List.tail hstack

theorem dispatchBalanced_iff (funcName : Option CStr) (response : RouteResponse)
    (fmt : Option CStr) (args : List VaArg) :
    DispatchBalanced L (luaVmRouteDispatch I funcName response fmt args L) ↔
      FormatKnown I routeDispatchConversions L funcName fmt ∧
        L.HasRoom (dispatchSlots I L funcName fmt args) := by
  cases funcName with
  | none =>
    exact iff_of_true ⟨countsMatch_of_eq rfl, rfl, rfl⟩ ⟨by simp [FormatKnown], Or.inl rfl⟩
  | some name =>
  by_cases hfun : (I.global L.script name).isfunction = true
  swap
  · have hrun : luaVmRouteDispatch I (some name) response fmt args L =
        (-1, errorResponse, L.useSlot) := by
      simp [luaVmRouteDispatch, hfun]
    have hslots : dispatchSlots I L (some name) fmt args = 1 := by simp [dispatchSlots, hfun]
    have hknown : FormatKnown I routeDispatchConversions L (some name) fmt := by
      simp [FormatKnown, hfun]
    rw [hrun, hslots, ← useSlot_overruns_iff, and_iff_right hknown]
    exact dispatchBalanced_iff_inside (countsMatch_of_eq rfl) rfl
  rw [formatKnown_function I L hfun]
  by_cases hknown : ∀ c ∈ formatText fmt, (routeDispatchConversions (F := F) (T := T) c).isSome
  · rw [and_iff_right hknown]
    exact dispatchBalanced_called I L hfun response args hknown
  · refine iff_of_false (fun h => ?_) fun h => hknown h.1
    refine pcall_unknown I L args hknown (I.global L.script name) ?_ h.counts
    rw [dispatch_stack I L hfun response rfl]
    split <;> rfl

/-- The value of a call stays, an error is popped. -/
theorem call_run {name : CStr} (hfun : (I.global L.script name).isfunction = true)
    {fmt : Option CStr} {args : List VaArg} {ok : Bool} {L' : State F T σ}
    (hcall : (pushFormat callFunctionConversions fmt args
      (L.push (I.global L.script name))).1.pcall I.call
        (pushFormat callFunctionConversions fmt args (L.push (I.global L.script name))).2 1 =
          (ok, L')) :
    luaVmCallFunction I (some name) fmt args L = if ok then (0, L') else (-1, L'.pop) := by
  unfold luaVmCallFunction
  simp only [State.getglobal_eq, State.push_top, hfun, Bool.true_eq_false, if_false, hcall]
  cases ok <;> rfl

/-- On a failing path with a matching call and the old stack only the room
    matters. -/
theorem callBalanced_failed {L S : State F T σ} (hcounts : CountsMatch L S)
    (hstack : S.stack = L.stack) : CallBalanced L (-1, S) ↔ S.overruns = L.overruns := by
  constructor
  · exact fun h => h.inside
  · intro h
    refine ⟨hcounts, ?_, fun _ => congrArg List.length hstack, h⟩
    intro hcode
    cases hcode

/-- A function that is called with a format that is known. -/
theorem callBalanced_called {name : CStr} (hfun : (I.global L.script name).isfunction = true)
    {fmt : Option CStr} (args : List VaArg)
    (hknown : ∀ c ∈ formatText fmt, (callFunctionConversions (F := F) (T := T) c).isSome) :
    CallBalanced L (luaVmCallFunction I (some name) fmt args L) ↔
      L.HasRoom (callSlots I L (some name) fmt args) := by
  obtain ⟨v, L', hpcall, -, hstack, hcounts, -, hover⟩ :=
    pcall_known I L args hknown (I.global L.script name)
  have hslots : callSlots I L (some name) fmt args =
      1 + (formatValues (F := F) (T := T) callFunctionConversions (formatText fmt)
        args).length := by
    simp [callSlots, hfun]
  have hinside : L'.overruns = L.overruns ↔ L.HasRoom (callSlots I L (some name) fmt args) := by
    rw [hover, hslots]
    unfold State.HasRoom
    omega
  rw [call_run I L hfun hpcall, ← hinside]
  split
  · constructor
    · exact fun h => h.inside
    · intro h
      refine ⟨hcounts, fun _ => congrArg List.length hstack, ?_, h⟩
      intro hcode
      exact absurd rfl hcode
  · exact callBalanced_failed hcounts (congrArg List.tail hstack)

theorem callBalanced_iff (funcName fmt : Option CStr) (args : List VaArg) :
    CallBalanced L (luaVmCallFunction I funcName fmt args L) ↔
      FormatKnown I callFunctionConversions L funcName fmt ∧
        L.HasRoom (callSlots I L funcName fmt args) := by
  cases funcName with
  | none =>
    refine iff_of_true ((callBalanced_failed (countsMatch_of_eq rfl) rfl).mpr rfl) ⟨?_, Or.inl rfl⟩
    simp [FormatKnown]
  | some name =>
  by_cases hfun : (I.global L.script name).isfunction = true
  swap
  · have hrun : luaVmCallFunction I (some name) fmt args L = (-1, L.useSlot) := by
      simp [luaVmCallFunction, hfun]
    have hslots : callSlots I L (some name) fmt args = 1 := by simp [callSlots, hfun]
    have hknown : FormatKnown I callFunctionConversions L (some name) fmt := by
      simp [FormatKnown, hfun]
    rw [hrun, hslots, ← useSlot_overruns_iff, and_iff_right hknown]
    exact callBalanced_failed (countsMatch_of_eq rfl) rfl
  rw [formatKnown_function I L hfun]
  by_cases hknown : ∀ c ∈ formatText fmt, (callFunctionConversions (F := F) (T := T) c).isSome
  · rw [and_iff_right hknown]
    exact callBalanced_called I L hfun args hknown
  · refine iff_of_false (fun h => ?_) fun h => hknown h.1
    refine pcall_unknown I L args hknown (I.global L.script name) ?_ h.counts
    rw [call_run I L hfun rfl]
    split <;> rfl

/-- **When the stack is balanced.**  For every state, function, format and
    argument list and every outcome of the call, the count given to
    `lua_pcall` is the number of values pushed, the stack is as high as it
    should be afterwards and no value is written beyond it, if and only if the
    function knows every character of the format (the global need not be a
    function) and the stack has the slots that the call needs. -/
theorem stackBalanced_iff (funcName : Option CStr) (response : RouteResponse) (fmt : Option CStr)
    (args : List VaArg) :
    (DispatchBalanced L (luaVmRouteDispatch I funcName response fmt args L) ↔
        FormatKnown I routeDispatchConversions L funcName fmt ∧
          L.HasRoom (dispatchSlots I L funcName fmt args)) ∧
      (CallBalanced L (luaVmCallFunction I funcName fmt args L) ↔
        FormatKnown I callFunctionConversions L funcName fmt ∧
          L.HasRoom (callSlots I L funcName fmt args)) :=
  ⟨dispatchBalanced_iff I L funcName response fmt args, callBalanced_iff I L funcName fmt args⟩

end Balance

/-- Every global is a function that returns nil. -/
def nilScript : Interp Unit Unit Unit where
  global := fun _ _ => .function ()
  field := fun _ _ _ => .nil
  call := fun _ _ s => (.ok [.nil], s)
  tointeger := fun _ => 0
  numberText := fun _ => []

/-- **A foreign slot is called**: `'f'` is not known to
    `lua_vm_route_dispatch`, and `lua_pcall` takes the value of its caller for
    the function. -/
theorem unknown_conversion_unbalanced :
    ¬ ∀ (I : Interp Unit Unit Unit) (L : State Unit Unit Unit) (funcName : Option CStr)
        (response : RouteResponse) (fmt : Option CStr) (args : List VaArg),
      DispatchBalanced L (luaVmRouteDispatch I funcName response fmt args L) ∧
        CallBalanced L (luaVmCallFunction I funcName fmt args L) := by
  intro h
  have hheight := (h nilScript ((State.newstate ()).push .userdata) (some (cstr "route_call")) .zero
    (some (cstr "f")) [.double 0]).1.height
  revert hheight
  decide

end LuaUtils
