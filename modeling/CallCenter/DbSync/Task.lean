import CallCenter.Framework.CFormat

/-! # Asynchronous Tasks and Their Text Encoding

    `db_sync.c` hands work to its worker thread as a task type and a text of
    at most 511 bytes.  The producers write the text with `snprintf`
    (`pack_*`), the worker reads it back with `sscanf`.

    The codec loses something in two of the four formats: an empty
    `department` or `result_desc` leaves nothing for `%[^|]` or `%[^\n]` to
    match, the scan stops there, and the buffers from that field on stay
    unassigned.  `decode_pack_iff` says that this is the only loss. -/

namespace DbSync

open CFormat

/-! ## Section 1: Tasks -/

/-- `DB_TASK_DATA_LEN` -/
def dbTaskDataLen : Nat := 512

/-- `db_task_type_t` -/
inductive DbTaskType where
  | agentStatus
  | agentOnline
  | callStart
  | callEnd
  | deptIdle
  | shutdown
  deriving DecidableEq, Repr

/-- The part of `db_task_t` that travels through the queue; the `next`
    pointer belongs to the queue. -/
structure DbTask where
  type : DbTaskType
  data : CStr
  deriving DecidableEq, Repr

/-- The separator `'|'`. -/
def bar : UInt8 := 124

/-- The byte `'\n'`. -/
def newline : UInt8 := 10

/-- A pointer that may be NULL, printed as the empty string. -/
def textOrEmpty (s : Option CStr) : CStr := s.getD []

def packAgentStatus (extension status : CStr) (concurrentCalls : Int32) : DbTask where
  type := .agentStatus
  data := snprintf dbTaskDataLen
    (extension ++ bar :: (status ++ bar :: intText concurrentCalls))

def packAgentOnline (extension : CStr) (isOnline : Int32) : DbTask where
  type := .agentOnline
  data := snprintf dbTaskDataLen (extension ++ bar :: intText isOnline)

def packCallStart (callId caller callee direction : CStr)
    (department startTime : Option CStr) : DbTask where
  type := .callStart
  data := snprintf dbTaskDataLen
    (callId ++ bar :: (caller ++ bar :: (callee ++ bar :: (direction ++ bar ::
      (textOrEmpty department ++ bar :: textOrEmpty startTime)))))

def packCallEnd (callId : CStr) (duration sipStatus resultCode : Int32)
    (resultDesc : Option CStr) : DbTask where
  type := .callEnd
  data := snprintf dbTaskDataLen
    (callId ++ bar :: (intText duration ++ bar :: (intText sipStatus ++ bar ::
      (intText resultCode ++ bar :: textOrEmpty resultDesc))))

/-! ## Section 2: What the worker reads back -/

/-- The worker's local variables after a scan that passed its threshold.
    A buffer that the scan did not assign is `none`; the `int` variables are
    initialised to 0. -/
inductive Decoded where
  | agentStatus (extension status : CStr) (calls : Int32)
  | agentOnline (extension : CStr) (online : Int32)
  | callStart (callId caller callee : CStr) (direction dept startTime : Option CStr)
  | callEnd (callId : CStr) (duration sipStatus resultCode : Int32) (resultDesc : Option CStr)
  | deptIdle (deptKey : CStr) (idle : Int32)
  deriving DecidableEq, Repr

/-- `"%31[^|]|%31[^|]|%d"` -/
def agentStatusFormat : List Directive := [.set 31 bar, .lit bar, .set 31 bar, .lit bar, .int]

/-- `"%31[^|]|%d"` -/
def agentOnlineFormat : List Directive := [.set 31 bar, .lit bar, .int]

/-- `"%255[^|]|%31[^|]|%31[^|]|%31[^|]|%63[^|]|%31[^\n]"` -/
def callStartFormat : List Directive :=
  [.set 255 bar, .lit bar, .set 31 bar, .lit bar, .set 31 bar, .lit bar, .set 31 bar, .lit bar,
    .set 63 bar, .lit bar, .set 31 newline]

/-- `"%255[^|]|%d|%d|%d|%127[^\n]"` -/
def callEndFormat : List Directive :=
  [.set 255 bar, .lit bar, .int, .lit bar, .int, .lit bar, .int, .lit bar, .set 127 newline]

/-- `"%63[^|]|%d"` -/
def deptIdleFormat : List Directive := [.set 63 bar, .lit bar, .int]

/-- A string variable that the scan may not have reached. -/
def strVar : Option Value → Option CStr
  | some (.str s) => some s
  | _ => none

/-- An `int` variable, initialised to 0. -/
def intVar : Option Value → Int32
  | some (.int v) => v
  | _ => 0

/-- The scan of the worker's `switch`, with its thresholds `>= 2`, `>= 1`,
    `>= 3`, `>= 3` and `>= 2`; `none` below the threshold and for a task
    type without a case. -/
def decode (task : DbTask) : Option Decoded :=
  match task.type with
  | .agentStatus =>
    match sscanf agentStatusFormat task.data with
    | .str ext :: .str status :: vs => some (.agentStatus ext status (intVar vs[0]?))
    | _ => none
  | .agentOnline =>
    match sscanf agentOnlineFormat task.data with
    | .str ext :: vs => some (.agentOnline ext (intVar vs[0]?))
    | _ => none
  | .callStart =>
    match sscanf callStartFormat task.data with
    | .str callId :: .str caller :: .str callee :: vs =>
      some (.callStart callId caller callee (strVar vs[0]?) (strVar vs[1]?) (strVar vs[2]?))
    | _ => none
  | .callEnd =>
    match sscanf callEndFormat task.data with
    | .str callId :: .int duration :: .int sipStatus :: vs =>
      some (.callEnd callId duration sipStatus (intVar vs[0]?) (strVar vs[1]?))
    | _ => none
  | .deptIdle =>
    match sscanf deptIdleFormat task.data with
    | .str deptKey :: .int idle :: _ => some (.deptIdle deptKey idle)
    | _ => none
  | .shutdown => none

/-! ## Section 3: Round trip -/

/-- The enqueueing calls that pass their NULL checks, with the arguments that
    reach `pack_*`. -/
inductive EnqueueCall where
  | agentStatus (extension status : CStr) (concurrentCalls : Int32)
  | agentOnline (extension : CStr) (isOnline : Int32)
  | callStart (callId caller callee direction : CStr) (department : Option CStr)
      (startTime : CStr)
  | callEnd (callId : CStr) (duration sipStatus resultCode : Int32) (resultDesc : Option CStr)
  deriving DecidableEq, Repr

def EnqueueCall.pack : EnqueueCall → DbTask
  | .agentStatus extension status calls => packAgentStatus extension status calls
  | .agentOnline extension isOnline => packAgentOnline extension isOnline
  | .callStart callId caller callee direction department startTime =>
    packCallStart callId caller callee direction department (some startTime)
  | .callEnd callId duration sipStatus resultCode resultDesc =>
    packCallEnd callId duration sipStatus resultCode resultDesc

/-- The call's own fields, NULL being the empty string. -/
def EnqueueCall.fields : EnqueueCall → Decoded
  | .agentStatus extension status calls => .agentStatus extension status calls
  | .agentOnline extension isOnline => .agentOnline extension isOnline
  | .callStart callId caller callee direction department startTime =>
    .callStart callId caller callee (some direction) (some (textOrEmpty department))
      (some startTime)
  | .callEnd callId duration sipStatus resultCode resultDesc =>
    .callEnd callId duration sipStatus resultCode (some (textOrEmpty resultDesc))

/-- A text without separators that fits a buffer of `width + 1` bytes. -/
structure Fits (width : Nat) (s : CStr) : Prop where
  length_le : s.length ≤ width
  no_bar : bar ∉ s
  no_newline : newline ∉ s

/-- The same for a field that must not be empty. -/
def Required (width : Nat) (s : CStr) : Prop := s ≠ [] ∧ Fits width s

/-- Every text field fits the worker's buffer and the required ones are not empty. -/
def EnqueueCall.WellFormed : EnqueueCall → Prop
  | .agentStatus extension status _ => Required 31 extension ∧ Required 31 status
  | .agentOnline extension _ => Required 31 extension
  | .callStart callId caller callee direction department startTime =>
    Required 255 callId ∧ Required 31 caller ∧ Required 31 callee ∧ Required 31 direction ∧
      Fits 63 (textOrEmpty department) ∧ Required 31 startTime
  | .callEnd callId _ _ _ resultDesc => Required 255 callId ∧ Fits 127 (textOrEmpty resultDesc)

/-- The optional text of the call, where its format has one, is there and not empty. -/
def EnqueueCall.OptionalGiven : EnqueueCall → Prop
  | .agentStatus .. => True
  | .agentOnline .. => True
  | .callStart _ _ _ _ department _ => textOrEmpty department ≠ []
  | .callEnd _ _ _ _ resultDesc => textOrEmpty resultDesc ≠ []

/-- A field in the middle of a record, together with the separator behind it. -/
theorem sscanf_field {width : Nat} {tok : CStr} (fmt : List Directive) (rest : CStr)
    (h : Required width tok) :
    sscanf (.set width bar :: .lit bar :: fmt) (tok ++ bar :: rest) =
      .str tok :: sscanf fmt rest := by
  rw [sscanf_set_cons _ h.1 h.2.length_le h.2.no_bar (stopsAt_cons _ _), sscanf_lit_cons]

theorem sscanf_intField (v : Int32) (fmt : List Directive) (rest : CStr) :
    sscanf (.int :: .lit bar :: fmt) (intText v ++ bar :: rest) = .int v :: sscanf fmt rest := by
  have hahead : NoDigitAhead (bar :: rest) := (stopsAt_cons bar rest).noDigitAhead (by decide)
  rw [sscanf_int_cons _ hahead, sscanf_lit_cons]

/-- A last field, up to the end of the text. -/
theorem sscanf_lastField {width : Nat} {tok : CStr} (h : Required width tok) :
    sscanf [.set width newline] tok = [.str tok] := by
  have hscan := sscanf_set_cons [] h.1 h.2.length_le h.2.no_newline (stopsAt_nil newline)
  rw [List.append_nil] at hscan
  rw [hscan]
  simp [sscanf]

theorem sscanf_lastInt (v : Int32) : sscanf [.int] (intText v) = [.int v] := by
  have hscan : sscanf [.int] (intText v ++ []) = .int v :: sscanf [] [] :=
    sscanf_int_cons [] (by simp [NoDigitAhead])
  rw [List.append_nil] at hscan
  rw [hscan]
  simp [sscanf]

theorem packAgentStatus_data {extension status : CStr} (hext : extension.length ≤ 31)
    (hstatus : status.length ≤ 31) (calls : Int32) :
    (packAgentStatus extension status calls).data =
      extension ++ bar :: (status ++ bar :: intText calls) := by
  have hcalls := length_intText_le calls
  refine snprintf_fits ?_
  simp only [List.length_append, List.length_cons, dbTaskDataLen]
  omega

theorem packAgentOnline_data {extension : CStr} (hext : extension.length ≤ 31)
    (isOnline : Int32) :
    (packAgentOnline extension isOnline).data = extension ++ bar :: intText isOnline := by
  have honline := length_intText_le isOnline
  refine snprintf_fits ?_
  simp only [List.length_append, List.length_cons, dbTaskDataLen]
  omega

theorem decode_packAgentStatus {extension status : CStr} (hext : Required 31 extension)
    (hstatus : Required 31 status) (calls : Int32) :
    decode (packAgentStatus extension status calls) =
      some (.agentStatus extension status calls) := by
  have hdata := packAgentStatus_data hext.2.length_le hstatus.2.length_le calls
  have hscan : sscanf agentStatusFormat (packAgentStatus extension status calls).data =
      [.str extension, .str status, .int calls] := by
    rw [hdata, agentStatusFormat, sscanf_field _ _ hext, sscanf_field _ _ hstatus, sscanf_lastInt]
  have htype : (packAgentStatus extension status calls).type = .agentStatus := rfl
  simp [decode, htype, hscan, intVar]

theorem decode_packAgentOnline {extension : CStr} (hext : Required 31 extension)
    (isOnline : Int32) :
    decode (packAgentOnline extension isOnline) = some (.agentOnline extension isOnline) := by
  have hdata := packAgentOnline_data hext.2.length_le isOnline
  have hscan : sscanf agentOnlineFormat (packAgentOnline extension isOnline).data =
      [.str extension, .int isOnline] := by
    rw [hdata, agentOnlineFormat, sscanf_field _ _ hext, sscanf_lastInt]
  have htype : (packAgentOnline extension isOnline).type = .agentOnline := rfl
  simp [decode, htype, hscan, intVar]

/-- What the worker has after scanning a call start: with an empty department
    the scan ends there, and neither `dept` nor `start_time` is assigned. -/
theorem decode_packCallStart {callId caller callee direction startTime : CStr}
    {department : Option CStr} (hid : Required 255 callId) (hcaller : Required 31 caller)
    (hcallee : Required 31 callee) (hdir : Required 31 direction)
    (hdept : Fits 63 (textOrEmpty department)) (htime : Required 31 startTime) :
    decode (packCallStart callId caller callee direction department (some startTime)) =
      some (if textOrEmpty department = [] then
          .callStart callId caller callee (some direction) none none
        else .callStart callId caller callee (some direction) (some (textOrEmpty department))
          (some startTime)) := by
  have hdata : (packCallStart callId caller callee direction department (some startTime)).data =
      callId ++ bar :: (caller ++ bar :: (callee ++ bar :: (direction ++ bar ::
        (textOrEmpty department ++ bar :: startTime)))) := by
    have h₁ := hid.2.length_le
    have h₂ := hcaller.2.length_le
    have h₃ := hcallee.2.length_le
    have h₄ := hdir.2.length_le
    have h₅ := hdept.length_le
    have h₆ := htime.2.length_le
    refine snprintf_fits ?_
    simp only [List.length_append, List.length_cons, dbTaskDataLen, textOrEmpty,
      Option.getD_some] at h₅ ⊢
    omega
  have htype : (packCallStart callId caller callee direction department (some startTime)).type =
      .callStart := rfl
  have hfront : sscanf callStartFormat
      (packCallStart callId caller callee direction department (some startTime)).data =
      .str callId :: .str caller :: .str callee :: .str direction ::
        sscanf [.set 63 bar, .lit bar, .set 31 newline]
          (textOrEmpty department ++ bar :: startTime) := by
    rw [hdata, callStartFormat, sscanf_field _ _ hid, sscanf_field _ _ hcaller,
      sscanf_field _ _ hcallee, sscanf_field _ _ hdir]
  split
  · next hempty =>
    rw [hempty, List.nil_append, sscanf_set_fail _ (stopsAt_cons _ _)] at hfront
    simp [decode, htype, hfront, strVar]
  · next hgiven =>
    rw [sscanf_field _ _ ⟨hgiven, hdept⟩, sscanf_lastField htime] at hfront
    simp [decode, htype, hfront, strVar]

/-- What the worker has after scanning a call end: the first line of the
    description.  Where that is empty `result_desc` is not assigned. -/
theorem decode_packCallEnd_line {callId : CStr} {resultDesc : Option CStr}
    (hid : Required 255 callId) (hlen : (textOrEmpty resultDesc).length ≤ 127)
    (duration sipStatus resultCode : Int32) {line : CStr}
    (hline : (textOrEmpty resultDesc).takeWhile (· ≠ newline) = line) :
    decode (packCallEnd callId duration sipStatus resultCode resultDesc) =
      some (.callEnd callId duration sipStatus resultCode
        (if line = [] then none else some line)) := by
  have hdata : (packCallEnd callId duration sipStatus resultCode resultDesc).data =
      callId ++ bar :: (intText duration ++ bar :: (intText sipStatus ++ bar ::
        (intText resultCode ++ bar :: textOrEmpty resultDesc))) := by
    have h₁ := hid.2.length_le
    have h₂ := length_intText_le duration
    have h₃ := length_intText_le sipStatus
    have h₄ := length_intText_le resultCode
    refine snprintf_fits ?_
    simp only [List.length_append, List.length_cons, dbTaskDataLen]
    omega
  have htype : (packCallEnd callId duration sipStatus resultCode resultDesc).type = .callEnd := rfl
  have hshort : line.length ≤ 127 := by
    rw [← hline]
    exact (List.takeWhile_prefix _).length_le.trans hlen
  have hlast : sscanf [.set 127 newline] (textOrEmpty resultDesc) =
      if line = [] then [] else [.str line] := by
    simp only [sscanf, hline, List.take_of_length_le hshort]
  have hfront : sscanf callEndFormat
      (packCallEnd callId duration sipStatus resultCode resultDesc).data =
      .str callId :: .int duration :: .int sipStatus :: .int resultCode ::
        (if line = [] then [] else [.str line]) := by
    rw [hdata, callEndFormat, sscanf_field _ _ hid, sscanf_intField, sscanf_intField,
      sscanf_intField, hlast]
  split
  · next hempty =>
    rw [if_pos hempty] at hfront
    simp [decode, htype, hfront, intVar, strVar]
  · next hgiven =>
    rw [if_neg hgiven] at hfront
    simp [decode, htype, hfront, intVar, strVar]

/-- A description of one line. -/
theorem decode_packCallEnd {callId : CStr} {resultDesc : Option CStr} (hid : Required 255 callId)
    (hdesc : Fits 127 (textOrEmpty resultDesc)) (duration sipStatus resultCode : Int32) :
    decode (packCallEnd callId duration sipStatus resultCode resultDesc) =
      some (.callEnd callId duration sipStatus resultCode
        (if textOrEmpty resultDesc = [] then none else some (textOrEmpty resultDesc))) := by
  apply decode_packCallEnd_line hid hdesc.length_le
  rw [List.takeWhile_eq_self_iff]
  intro b hb
  have hne : b ≠ newline := fun h => hdesc.no_newline (h ▸ hb)
  simpa using hne

/-- **Round trip**: a well-formed call is read back exactly if and only if its
    optional text, where the format has one, is given and not empty. -/
theorem decode_pack_iff (call : EnqueueCall) (hwf : call.WellFormed) :
    decode call.pack = some call.fields ↔ call.OptionalGiven := by
  cases call with
  | agentStatus extension status calls =>
    obtain ⟨hext, hstatus⟩ := hwf
    have hdec := decode_packAgentStatus hext hstatus calls
    simp only [EnqueueCall.pack, EnqueueCall.fields, EnqueueCall.OptionalGiven, hdec]
  | agentOnline extension isOnline =>
    have hdec := decode_packAgentOnline hwf isOnline
    simp only [EnqueueCall.pack, EnqueueCall.fields, EnqueueCall.OptionalGiven, hdec]
  | callStart callId caller callee direction department startTime =>
    obtain ⟨hid, hcaller, hcallee, hdir, hdept, htime⟩ := hwf
    have hdec := decode_packCallStart hid hcaller hcallee hdir hdept htime
    simp only [EnqueueCall.pack, EnqueueCall.fields, EnqueueCall.OptionalGiven, hdec]
    split <;> simp_all
  | callEnd callId duration sipStatus resultCode resultDesc =>
    obtain ⟨hid, hdesc⟩ := hwf
    have hdec := decode_packCallEnd hid hdesc duration sipStatus resultCode
    simp only [EnqueueCall.pack, EnqueueCall.fields, EnqueueCall.OptionalGiven, hdec]
    split <;> simp_all

/-- The theorem at a call with a department. -/
theorem decode_pack_iff_inbound :
    decode (EnqueueCall.callStart (cstr "c1") (cstr "2001") (cstr "2002") (cstr "inbound")
      (some (cstr "sales")) (cstr "2026-05-30 14:30:00")).pack =
      some (EnqueueCall.callStart (cstr "c1") (cstr "2001") (cstr "2002") (cstr "inbound")
        (some (cstr "sales")) (cstr "2026-05-30 14:30:00")).fields :=
  (decode_pack_iff _ (by
    refine ⟨⟨?_, ?_, ?_, ?_⟩, ⟨?_, ?_, ?_, ?_⟩, ⟨?_, ?_, ?_, ?_⟩, ⟨?_, ?_, ?_, ?_⟩, ⟨?_, ?_, ?_⟩,
      ⟨?_, ?_, ?_, ?_⟩⟩ <;> decide)).mpr (by
    show textOrEmpty (some (cstr "sales")) ≠ []
    decide)

/-- A call without a department is not read back: its department and its
    start time are lost. -/
theorem decode_pack_without_department :
    ¬ ∀ call : EnqueueCall, call.WellFormed → decode call.pack = some call.fields := by
  intro h
  have hcall := h (.callStart (cstr "c1") (cstr "2001") (cstr "2002") (cstr "inbound") none
    (cstr "2026-05-30 14:30:00")) (by
      refine ⟨⟨?_, ?_, ?_, ?_⟩, ⟨?_, ?_, ?_, ?_⟩, ⟨?_, ?_, ?_, ?_⟩, ⟨?_, ?_, ?_, ?_⟩, ⟨?_, ?_, ?_⟩,
        ⟨?_, ?_, ?_, ?_⟩⟩ <;> decide)
  exact absurd hcall (by decide)

end DbSync
