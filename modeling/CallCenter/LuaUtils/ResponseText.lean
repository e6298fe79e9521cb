import CallCenter.DbSync.Task
import CallCenter.Framework.Utf8
import CallCenter.LuaUtils.Dispatch

/-! # The Texts of a Response

    `lua_vm_call_route` and `lua_vm_route_dispatch` copy three texts of the
    script's table into arrays of 16, 64 and 128 bytes.  The scripts answer in
    UTF-8, most characters of their descriptions are three bytes long, and
    `strncpy` cuts at a byte.

    A field is the longest prefix of whole characters exactly if the byte at
    the cut begins a character and no NUL comes before it
    (`strncpyField_whole_iff`).  The description goes on to the column
    `result_desc`; what the worker makes of a valid one is valid. -/

namespace LuaUtils

open CFormat CMemory DbSync LuaApi Utf8

/-! ## Section 1: What should be stored -/

/-- The texts that the script returns, in UTF-8. -/
structure ResponseText where
  target : CStr
  department : CStr
  description : CStr
  target_valid : Valid target
  department_valid : Valid department
  description_valid : Valid description

/-- Every field is the longest prefix of whole characters that fits its array,
    and the description that the worker reads back for `result_desc` is valid. -/
structure TextWhole (texts : ResponseText) (response : RouteResponse) : Prop where
  target : IsWholePrefix (maxExtensionLen - 1) texts.target response.targetExtension
  department : IsWholePrefix (maxDeptNameLen - 1) texts.department response.department
  description : IsWholePrefix (maxRouteDescLen - 1) texts.description response.description
  resultDesc : ∀ (callId : CStr) (duration sipStatus resultCode : Int32), Required 255 callId →
    ∀ id d st code desc,
      decode (packCallEnd callId duration sipStatus resultCode (some response.description)) =
        some (.callEnd id d st code (some desc)) → Valid desc

/-- No NUL comes before the cut, and a character begins there. -/
structure CutOk (cap : Nat) (s : CStr) : Prop where
  noNul : 0 ∉ s.take (cap - 1)
  boundary : Boundary s (cap - 1)

structure CutsOk (texts : ResponseText) : Prop where
  target : CutOk maxExtensionLen texts.target
  department : CutOk maxDeptNameLen texts.department
  description : CutOk maxRouteDescLen texts.description

/-! ## Section 2: One field -/

theorem text_take {s : CStr} {n : Nat} (hnul : 0 ∉ s.take n) : (text s).take n = s.take n := by
  have hsplit : text s = s.take n ++ text (s.drop n) := by
    rw [← text_append hnul, List.take_append_drop]
  rw [hsplit, List.take_append, List.take_take, min_self]
  by_cases hlen : n ≤ s.length
  · rw [List.length_take, min_eq_left hlen, Nat.sub_self, List.take_zero, List.append_nil]
  · rw [List.drop_eq_nil_of_le (by omega)]
    simp [text]

/-- A text with a NUL before the cut ends there, although the NUL is a
    character and would fit. -/
theorem not_whole_of_nul {s : CStr} (h : Valid s) {n : Nat} (hnul : 0 ∈ s.take n) :
    ¬ IsWholePrefix n s ((text s).take n) := by
  intro hwhole
  obtain ⟨rest, hrest⟩ := Terminated.split (p := s) (List.mem_of_mem_take hnul)
  have hshort : (text s).length < n := by
    by_contra hlong
    have htake : s.take n = (text s).take n := by
      conv_lhs => rw [hrest]
      exact List.take_append_of_le_length (by omega)
    rw [htake] at hnul
    exact notMem_text s (List.mem_of_mem_take hnul)
  have hnulValid : Valid [0] := valid_encode ['\x00']
  have hlonger : Valid (text s ++ [0]) :=
    (h.takeWhile_ne (a := 0) (by decide)).append hnulValid
  have hprefix : text s ++ [0] <+: s := by
    refine ⟨rest, ?_⟩
    rw [List.append_assoc]
    exact hrest.symm
  have hle := hwhole.longest _ hprefix hlonger (by simp; omega)
  rw [List.take_of_length_le hshort.le, List.length_append, List.length_singleton] at hle
  omega

/-- **When `strncpy` stores whole characters.** -/
theorem strncpyField_whole_iff {s : CStr} (h : Valid s) (cap : Nat) :
    IsWholePrefix (cap - 1) s (strncpyField cap (some s)) ↔ CutOk cap s := by
  show IsWholePrefix (cap - 1) s ((text s).take (cap - 1)) ↔ _
  by_cases hnul : 0 ∈ s.take (cap - 1)
  · exact iff_of_false (not_whole_of_nul h hnul) fun hcut => hcut.noNul hnul
  · rw [text_take hnul, isWholePrefix_take_iff h]
    exact ⟨fun hboundary => ⟨hnul, hboundary⟩, fun hcut => hcut.boundary⟩

/-- The worker reads the first line of a description that fits. -/
theorem resultDesc_valid {description : CStr} (h : Valid description)
    (hlen : description.length ≤ 127) {callId : CStr} (hid : Required 255 callId)
    {duration sipStatus resultCode : Int32} {id : CStr} {d st code : Int32} {desc : CStr}
    (hdec : decode (packCallEnd callId duration sipStatus resultCode (some description)) =
      some (.callEnd id d st code (some desc))) : Valid desc := by
  have hline : Valid (description.takeWhile (· ≠ newline)) := h.takeWhile_ne (by decide)
  have hfirst : (textOrEmpty (some description)).takeWhile (· ≠ newline) =
      description.takeWhile (· ≠ newline) := rfl
  have hfits : (textOrEmpty (some description)).length ≤ 127 := hlen
  rw [decode_packCallEnd_line hid hfits duration sipStatus resultCode hfirst] at hdec
  simp only [Option.some.injEq, Decoded.callEnd.injEq] at hdec
  obtain ⟨-, -, -, -, hdesc⟩ := hdec
  split at hdesc
  · cases hdesc
  · obtain rfl := Option.some.inj hdesc
    exact hline

/-! ## Section 3: Both functions -/

/-- The three texts as the functions store them. -/
structure Copied (texts : ResponseText) (response : RouteResponse) : Prop where
  target : response.targetExtension = strncpyField maxExtensionLen (some texts.target)
  department : response.department = strncpyField maxDeptNameLen (some texts.department)
  description : response.description = strncpyField maxRouteDescLen (some texts.description)

theorem Copied.textWhole_iff {texts : ResponseText} {response : RouteResponse}
    (h : Copied texts response) : TextWhole texts response ↔ CutsOk texts := by
  have htarget := strncpyField_whole_iff texts.target_valid maxExtensionLen
  have hdepartment := strncpyField_whole_iff texts.department_valid maxDeptNameLen
  have hdescription := strncpyField_whole_iff texts.description_valid maxRouteDescLen
  rw [← h.target] at htarget
  rw [← h.department] at hdepartment
  rw [← h.description] at hdescription
  constructor
  · intro hwhole
    exact ⟨htarget.mp hwhole.target, hdepartment.mp hwhole.department,
      hdescription.mp hwhole.description⟩
  · intro hcuts
    have hdesc := hdescription.mpr hcuts.description
    refine ⟨htarget.mpr hcuts.target, hdepartment.mpr hcuts.department, hdesc, ?_⟩
    intro callId duration sipStatus resultCode hid id d st code desc hdec
    exact resultDesc_valid hdesc.valid hdesc.fits hid hdec

/-- The table of `lua_vm_call_route`. -/
def ResponseText.table (texts : ResponseText) (code : Option Int) : ResponseTable where
  code := code
  target := some texts.target
  department := some texts.department
  description := some texts.description

variable {F T σ : Type}

theorem copied_callRoute (texts : ResponseText) {f : ScriptFunction σ} {callerId : Option CStr}
    {digits : CStr} {s s' : σ} {code : Option Int}
    (hcall : f (callerId.getD []) digits s = (.table (texts.table code), s')) :
    Copied texts (luaVmCallRoute (some f) callerId digits s).2.1 := by
  unfold luaVmCallRoute
  dsimp only
  rw [hcall]
  exact ⟨rfl, rfl, rfl⟩

/-- The function of `lua_vm_route_dispatch` returns a table with the texts. -/
structure DispatchReturns (I : Interp F T σ) (name : CStr) (fmt : Option CStr) (args : List VaArg)
    (L L' : State F T σ) (t : T) (texts : ResponseText) : Prop where
  isfunction : (I.global L.script name).isfunction = true
  call : (pushFormat routeDispatchConversions fmt args (L.getglobal I name)).1.pcall I.call
    (pushFormat routeDispatchConversions fmt args (L.getglobal I name)).2 1 = (true, L')
  top : L'.top = .table t
  target : I.field L'.script t (cstr "target") = .str texts.target
  department : I.field L'.script t (cstr "department") = .str texts.department
  description : I.field L'.script t (cstr "description") = .str texts.description

theorem stringField_table {I : Interp F T σ} {L : State F T σ} {t : T} (htop : L.top = .table t)
    {name s : CStr} (hfield : I.field L.script t name = .str s) (cap : Nat) :
    stringField I L cap name = (strncpyField cap (some s), L.useSlot) := by
  unfold stringField
  dsimp only
  rw [State.pop_getfield, State.getfield_table I L htop, hfield]
  rfl

theorem copied_routeDispatch {I : Interp F T σ} {name : CStr} {fmt : Option CStr}
    {args : List VaArg} {L L' : State F T σ} {t : T} {texts : ResponseText}
    (h : DispatchReturns I name fmt args L L' t texts) (response : RouteResponse) :
    Copied texts (luaVmRouteDispatch I (some name) response fmt args L).2.1 := by
  have htable : L'.top.istable = true := by rw [h.top]; rfl
  have hrun : (luaVmRouteDispatch I (some name) response fmt args L).2.1 = (readFields I L').1 := by
    unfold luaVmRouteDispatch
    dsimp only
    rw [if_neg (by simp [h.isfunction]), h.call]
    dsimp only
    rw [if_neg (by rw [htable]; simp)]
  rw [hrun]
  unfold readFields
  dsimp only
  -- reading a field leaves the table on top
  have htop (L : State F T σ) (htop : L.top = .table t) : L.useSlot.top = .table t := htop
  rw [State.pop_getfield, stringField_table (htop _ h.top) h.target]
  dsimp only
  rw [stringField_table (htop _ (htop _ h.top)) h.department]
  dsimp only
  rw [stringField_table (htop _ (htop _ (htop _ h.top))) h.description]
  exact ⟨rfl, rfl, rfl⟩

/-- **When the texts of a response are whole.**  Whatever valid texts the
    script returns, `lua_vm_call_route` and `lua_vm_route_dispatch` store for
    each the longest prefix of whole characters that fits, and the column
    `result_desc` gets a valid text, if and only if at each of the three cuts
    a character begins (or the text has ended) and no NUL comes before. -/
theorem responseText_iff (texts : ResponseText) :
    (∀ (σ : Type) (f : ScriptFunction σ) (callerId : Option CStr) (digits : CStr) (s s' : σ)
        (code : Option Int), f (callerId.getD []) digits s = (.table (texts.table code), s') →
        (TextWhole texts (luaVmCallRoute (some f) callerId digits s).2.1 ↔ CutsOk texts)) ∧
      ∀ (F T σ : Type) (I : Interp F T σ) (name : CStr) (response : RouteResponse)
        (fmt : Option CStr) (args : List VaArg) (L L' : State F T σ) (t : T),
        DispatchReturns I name fmt args L L' t texts →
        (TextWhole texts (luaVmRouteDispatch I (some name) response fmt args L).2.1 ↔
          CutsOk texts) := by
  refine ⟨?_, ?_⟩
  · intro σ f callerId digits s s' code hcall
    exact (copied_callRoute texts hcall).textWhole_iff
  · intro F T σ I name response fmt args L L' t hreturns
    exact (copied_routeDispatch hreturns response).textWhole_iff

/-- Texts in which only the description is given. -/
def describedBy (chars : List Char) : ResponseText where
  target := []
  department := []
  description := encode chars
  target_valid := valid_nil
  department_valid := valid_nil
  description_valid := valid_encode chars

/-- Every global is a function that returns one table with the texts. -/
def textScript (texts : ResponseText) : Interp Unit Unit Unit where
  global := fun _ _ => .function ()
  field := fun _ _ name =>
    if name = cstr "target" then .str texts.target
    else if name = cstr "department" then .str texts.department
    else if name = cstr "description" then .str texts.description
    else .nil
  call := fun _ _ s => (.ok [.table ()], s)
  tointeger := fun _ => 0
  numberText := fun _ => []

/-- A letter and 43 characters of three bytes: the cut at 127 bytes comes
    after the 42nd of them. -/
def longDescription : ResponseText := describedBy ('A' :: List.replicate 43 '销')

/-- A text that is cut, between two characters, by both functions. -/
theorem responseText_iff_cut :
    longDescription.description.length = 130 ∧
      TextWhole longDescription
        (luaVmCallRoute (some fun _ _ s => (.table (longDescription.table (some 0)), s))
          none [] ()).2.1 ∧
      TextWhole longDescription
        (luaVmRouteDispatch (textScript longDescription) (some (cstr "route_call")) .zero
          none [] (.newstate ())).2.1 := by
  have hcuts : CutsOk longDescription := by
    refine ⟨⟨by simp [longDescription, describedBy], ?_⟩,
      ⟨by simp [longDescription, describedBy], ?_⟩, ⟨by decide, ?_⟩⟩
    · exact boundary_of_length_le (by decide)
    · exact boundary_of_length_le (by decide)
    · intro b hb
      have hbyte : longDescription.description[127]? = some 0xE9 := rfl
      rw [← Option.some.inj (hbyte.symm.trans hb)]
      decide
  have hreturns : DispatchReturns (textScript longDescription) (cstr "route_call") none []
      (.newstate ()) ⟨(), [.table ()], luaMinstack, 0, [⟨0, 1⟩]⟩ () longDescription :=
    ⟨rfl, rfl, rfl, rfl, rfl, rfl⟩
  exact ⟨rfl, ((responseText_iff _).1 _ _ none [] () () (some 0) rfl).mpr hcuts,
    ((responseText_iff _).2 _ _ _ _ _ .zero none [] _ _ () hreturns).mpr hcuts⟩

/-- **A description ends inside a character**: of 43 characters of three bytes
    127 bytes are stored. -/
theorem description_cut_inside :
    ¬ ∀ (texts : ResponseText) (f : ScriptFunction Unit) (callerId : Option CStr) (digits : CStr)
        (code : Option Int), f (callerId.getD []) digits () = (.table (texts.table code), ()) →
        TextWhole texts (luaVmCallRoute (some f) callerId digits ()).2.1 := by
  intro h
  have hwhole := h (describedBy (List.replicate 43 '销'))
    (fun _ _ _ => (.table ((describedBy (List.replicate 43 '销')).table (some 0)), ())) none []
    (some 0) rfl
  rw [(copied_callRoute _ rfl).textWhole_iff] at hwhole
  have hfirst := hwhole.description.boundary 0x94 (by decide +kernel)
  revert hfirst
  decide

end LuaUtils
