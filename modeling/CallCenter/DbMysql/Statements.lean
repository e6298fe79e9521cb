import CallCenter.DbMysql.Pool
import CallCenter.Framework.SqlText

/-! # The Statements of `db_mysql.c`

    Four functions print their arguments between quotes into a buffer of
    `DB_MAX_SQL_LEN` bytes and hand it to `mysql_real_query`.  Nothing is
    escaped, and a text that does not fit is cut off.

    `SqlCall.statement` is what a call means to say.  The server reads that
    exactly if every argument reads as itself between quotes and the text
    fits the buffer (`statement_read_iff`). -/

namespace DbMysql.Statements

open CFormat SqlText

/-! ## Section 1: The functions -/

/-- `DB_MAX_SQL_LEN` -/
def dbMaxSqlLen : Nat := 4096

/-- What the pool and the server answer: the connection that is borrowed, and
    the affected rows of a statement that succeeds. -/
structure MysqlAnswers where
  borrow : Option Handle
  realQuery : Handle → CStr → Option Nat

/-- `db_mysql_execute`: its result and the texts given to `mysql_real_query`. -/
def dbMysqlExecute (mysql : MysqlAnswers) (sql : CStr) : Int32 × List CStr :=
  match mysql.borrow with
  | none => (-1, [])
  | some conn =>
    match mysql.realQuery conn sql with
    | some affected => (Int32.ofNat affected, [sql])
    | none => (-1, [sql])

def dbMysqlUpdateAgentStatus (mysql : MysqlAnswers) (extension status : CStr)
    (concurrentCalls : Int32) : Int32 × List CStr :=
  dbMysqlExecute mysql (snprintf dbMaxSqlLen
    (cstr "UPDATE agents SET status='" ++ status ++ cstr "', concurrent_calls=" ++
      intText concurrentCalls ++ cstr ", last_active=NOW() WHERE extension='" ++ extension ++
      cstr "'"))

def dbMysqlInsertCallRecord (mysql : MysqlAnswers) (callId caller callee direction : CStr)
    (department : Option CStr) (startTime : CStr) (resultCode : Int32)
    (resultDesc : Option CStr) : Int32 × List CStr :=
  dbMysqlExecute mysql (snprintf dbMaxSqlLen
    (cstr "INSERT INTO call_records (call_id, caller_number, callee_number, " ++
      cstr "direction, department, start_time, result_code, result_desc) " ++
      cstr "VALUES ('" ++ callId ++ cstr "','" ++ caller ++ cstr "','" ++ callee ++ cstr "','" ++
      direction ++ cstr "','" ++ department.getD [] ++ cstr "','" ++ startTime ++ cstr "'," ++
      intText resultCode ++ cstr ",'" ++ resultDesc.getD [] ++ cstr "')"))

def dbMysqlUpdateCallEnd (mysql : MysqlAnswers) (callId endTime : CStr)
    (duration sipStatus resultCode : Int32) (resultDesc : Option CStr) : Int32 × List CStr :=
  dbMysqlExecute mysql (snprintf dbMaxSqlLen
    (cstr "UPDATE call_records SET end_time='" ++ endTime ++ cstr "', duration=" ++
      intText duration ++ cstr ", " ++ cstr "sip_status=" ++ intText sipStatus ++
      cstr ", result_code=" ++ intText resultCode ++ cstr ", result_desc='" ++
      resultDesc.getD [] ++ cstr "' " ++ cstr "WHERE call_id='" ++ callId ++ cstr "'"))

def dbMysqlInsertCallLog (mysql : MysqlAnswers) (callId : Option CStr)
    (logLevel eventType : CStr) (message caller callee department : Option CStr) :
    Int32 × List CStr :=
  dbMysqlExecute mysql (snprintf dbMaxSqlLen
    (cstr "INSERT INTO call_logs (call_id, log_level, event_type, message, " ++
      cstr "caller_number, callee_number, department) " ++
      cstr "VALUES ('" ++ callId.getD [] ++ cstr "','" ++ logLevel ++ cstr "','" ++ eventType ++
      cstr "','" ++ message.getD [] ++ cstr "','" ++ caller.getD [] ++ cstr "','" ++
      callee.getD [] ++ cstr "','" ++ department.getD [] ++ cstr "')"))

/-- A call of one of the four; a string that may be NULL is an `Option`. -/
inductive SqlCall where
  | updateAgentStatus (extension status : CStr) (concurrentCalls : Int32)
  | insertCallRecord (callId caller callee direction : CStr) (department : Option CStr)
      (startTime : CStr) (resultCode : Int32) (resultDesc : Option CStr)
  | updateCallEnd (callId endTime : CStr) (duration sipStatus resultCode : Int32)
      (resultDesc : Option CStr)
  | insertCallLog (callId : Option CStr) (logLevel eventType : CStr)
      (message caller callee department : Option CStr)
  deriving DecidableEq, Repr

def SqlCall.run (mysql : MysqlAnswers) : SqlCall → Int32 × List CStr
  | .updateAgentStatus extension status concurrentCalls =>
    dbMysqlUpdateAgentStatus mysql extension status concurrentCalls
  | .insertCallRecord callId caller callee direction department startTime resultCode resultDesc =>
    dbMysqlInsertCallRecord mysql callId caller callee direction department startTime resultCode
      resultDesc
  | .updateCallEnd callId endTime duration sipStatus resultCode resultDesc =>
    dbMysqlUpdateCallEnd mysql callId endTime duration sipStatus resultCode resultDesc
  | .insertCallLog callId logLevel eventType message caller callee department =>
    dbMysqlInsertCallLog mysql callId logLevel eventType message caller callee department

/-! ## Section 2: What a call means -/

/-- The intended statement. -/
def SqlCall.statement : SqlCall → List SqlPart
  | .updateAgentStatus extension status concurrentCalls =>
    [.text (cstr "UPDATE agents SET status="), .literal status,
      .text (cstr ", concurrent_calls="), .int concurrentCalls,
      .text (cstr ", last_active=NOW() WHERE extension="), .literal extension]
  | .insertCallRecord callId caller callee direction department startTime resultCode resultDesc =>
    [.text (cstr "INSERT INTO call_records (call_id, caller_number, callee_number, "),
      .text (cstr "direction, department, start_time, result_code, result_desc) "),
      .text (cstr "VALUES ("), .literal callId, .text (cstr ","), .literal caller,
      .text (cstr ","), .literal callee, .text (cstr ","), .literal direction,
      .text (cstr ","), .literal (department.getD []), .text (cstr ","), .literal startTime,
      .text (cstr ","), .int resultCode, .text (cstr ","),
      .literal (resultDesc.getD []), .text (cstr ")")]
  | .updateCallEnd callId endTime duration sipStatus resultCode resultDesc =>
    [.text (cstr "UPDATE call_records SET end_time="), .literal endTime,
      .text (cstr ", duration="), .int duration, .text (cstr ", "),
      .text (cstr "sip_status="), .int sipStatus, .text (cstr ", result_code="),
      .int resultCode, .text (cstr ", result_desc="), .literal (resultDesc.getD []),
      .text (cstr " "), .text (cstr "WHERE call_id="), .literal callId]
  | .insertCallLog callId logLevel eventType message caller callee department =>
    [.text (cstr "INSERT INTO call_logs (call_id, log_level, event_type, message, "),
      .text (cstr "caller_number, callee_number, department) "),
      .text (cstr "VALUES ("), .literal (callId.getD []), .text (cstr ","), .literal logLevel,
      .text (cstr ","), .literal eventType, .text (cstr ","), .literal (message.getD []),
      .text (cstr ","), .literal (caller.getD []), .text (cstr ","), .literal (callee.getD []),
      .text (cstr ","), .literal (department.getD []), .text (cstr ")")]

/-- The string arguments; NULL is written as the empty string. -/
def SqlCall.arguments : SqlCall → List CStr
  | .updateAgentStatus extension status _ => [extension, status]
  | .insertCallRecord callId caller callee direction department startTime _ resultDesc =>
    [callId, caller, callee, direction, department.getD [], startTime, resultDesc.getD []]
  | .updateCallEnd callId endTime _ _ _ resultDesc => [callId, endTime, resultDesc.getD []]
  | .insertCallLog callId logLevel eventType message caller callee department =>
    [callId.getD [], logLevel, eventType, message.getD [], caller.getD [], callee.getD [],
      department.getD []]

def SqlCall.integers : SqlCall → List Int32
  | .updateAgentStatus _ _ concurrentCalls => [concurrentCalls]
  | .insertCallRecord _ _ _ _ _ _ resultCode _ => [resultCode]
  | .updateCallEnd _ _ duration sipStatus resultCode _ => [duration, sipStatus, resultCode]
  | .insertCallLog .. => []

/-- The bytes that the format prints besides its arguments. -/
def SqlCall.formatBytes : SqlCall → Nat
  | .updateAgentStatus .. => 84
  | .insertCallRecord .. => 156
  | .updateCallEnd .. => 106
  | .insertCallLog .. => 135

/-- The length of the text that is printed. -/
def SqlCall.textLength (call : SqlCall) : Nat :=
  call.formatBytes + (call.arguments.map List.length).sum +
    (call.integers.map fun v => (intText v).length).sum

theorem wellFormed_statement (call : SqlCall) : WellFormed call.statement := by
  cases call with
  | updateAgentStatus extension status concurrentCalls =>
    refine ⟨?_, nofun, ?_, ?_, nofun, trivial⟩
    all_goals decide +kernel
  | insertCallRecord =>
    refine ⟨?_, ?_, ?_, nofun, ?_, nofun, ?_, nofun, ?_, nofun, ?_, nofun, ?_, nofun, ?_, ?_, nofun,
      ?_, trivial⟩
    all_goals decide +kernel
  | updateCallEnd =>
    refine ⟨?_, nofun, ?_, ?_, ?_, ?_, ?_, nofun, ?_, ?_, nofun, trivial⟩
    all_goals decide +kernel
  | insertCallLog =>
    refine ⟨?_, ?_, ?_, nofun, ?_, nofun, ?_, nofun, ?_, nofun, ?_, nofun, ?_, nofun, ?_, nofun, ?_,
      trivial⟩
    all_goals decide +kernel

theorem formatLength_statement (call : SqlCall) :
    formatLength call.statement = call.formatBytes := by
  cases call with
  | _ =>
    simp only [SqlCall.statement, formatLength, List.map_cons, List.map_nil, List.sum_cons,
      List.sum_nil, SqlCall.formatBytes]
    decide +kernel

theorem integers_statement (call : SqlCall) : SqlText.integers call.statement = call.integers := by
  cases call <;> rfl

/-- An UPDATE names its key last. -/
theorem literals_statement_perm (call : SqlCall) :
    (literals call.statement).Perm call.arguments := by
  cases call with
  | updateAgentStatus extension status concurrentCalls => exact List.Perm.swap _ _ _
  | insertCallRecord => exact List.Perm.refl _
  | updateCallEnd callId endTime duration sipStatus resultCode resultDesc =>
    exact @List.perm_append_comm _ [endTime, resultDesc.getD []] [callId]
  | insertCallLog => exact List.Perm.refl _

theorem length_render_statement (call : SqlCall) :
    (render call.statement).length = call.textLength := by
  have hsum := ((literals_statement_perm call).map List.length).sum_eq
  rw [length_render, formatLength_statement, integers_statement, hsum]
  rfl

/-! ## Section 3: What the server reads -/

/-- The text that is printed, before it is cut. -/
theorem run_sql (mysql : MysqlAnswers) (call : SqlCall) :
    call.run mysql = dbMysqlExecute mysql (snprintf dbMaxSqlLen (render call.statement)) := by
  cases call with
  | updateAgentStatus extension status concurrentCalls =>
    have h₁ : cstr "UPDATE agents SET status='" = cstr "UPDATE agents SET status=" ++ [39] := by
      decide +kernel
    have h₂ : cstr "', concurrent_calls=" = 39 :: cstr ", concurrent_calls=" := by decide +kernel
    have h₃ : cstr ", last_active=NOW() WHERE extension='" =
        cstr ", last_active=NOW() WHERE extension=" ++ [39] := by decide +kernel
    have h₄ : cstr "'" = [39] := by decide +kernel
    simp only [SqlCall.run, dbMysqlUpdateAgentStatus, SqlCall.statement, h₁, h₂, h₃, h₄,
      render_cons, render_nil, SqlPart.render, List.append_assoc, List.cons_append,
      List.nil_append, List.append_nil]
  | insertCallRecord callId caller callee direction department startTime resultCode resultDesc =>
    have h₁ : cstr "VALUES ('" = cstr "VALUES (" ++ [39] := by decide +kernel
    have h₂ : cstr "','" = 39 :: (cstr "," ++ [39]) := by decide +kernel
    have h₃ : cstr "'," = 39 :: cstr "," := by decide +kernel
    have h₄ : cstr ",'" = cstr "," ++ [39] := by decide +kernel
    have h₅ : cstr "')" = 39 :: cstr ")" := by decide +kernel
    simp only [SqlCall.run, dbMysqlInsertCallRecord, SqlCall.statement, h₁, h₂, h₃, h₄, h₅,
      render_cons, render_nil, SqlPart.render, List.append_assoc, List.cons_append,
      List.nil_append, List.append_nil]
  | updateCallEnd callId endTime duration sipStatus resultCode resultDesc =>
    have h₁ : cstr "UPDATE call_records SET end_time='" =
        cstr "UPDATE call_records SET end_time=" ++ [39] := by decide +kernel
    have h₂ : cstr "', duration=" = 39 :: cstr ", duration=" := by decide +kernel
    have h₃ : cstr ", result_desc='" = cstr ", result_desc=" ++ [39] := by decide +kernel
    have h₄ : cstr "' " = 39 :: cstr " " := by decide +kernel
    have h₅ : cstr "WHERE call_id='" = cstr "WHERE call_id=" ++ [39] := by decide +kernel
    have h₆ : cstr "'" = [39] := by decide +kernel
    simp only [SqlCall.run, dbMysqlUpdateCallEnd, SqlCall.statement, h₁, h₂, h₃, h₄, h₅, h₆,
      render_cons, render_nil, SqlPart.render, List.append_assoc, List.cons_append,
      List.nil_append, List.append_nil]
  | insertCallLog callId logLevel eventType message caller callee department =>
    have h₁ : cstr "VALUES ('" = cstr "VALUES (" ++ [39] := by decide +kernel
    have h₂ : cstr "','" = 39 :: (cstr "," ++ [39]) := by decide +kernel
    have h₃ : cstr "')" = 39 :: cstr ")" := by decide +kernel
    simp only [SqlCall.run, dbMysqlInsertCallLog, SqlCall.statement, h₁, h₂, h₃,
      render_cons, render_nil, SqlPart.render, List.append_assoc, List.cons_append,
      List.nil_append, List.append_nil]

/-- The texts that reach the server: one, if there is a connection. -/
theorem mem_execute_iff {mysql : MysqlAnswers} {sql text : CStr} :
    text ∈ (dbMysqlExecute mysql sql).2 ↔ mysql.borrow ≠ none ∧ text = sql := by
  unfold dbMysqlExecute
  cases mysql.borrow with
  | none => simp
  | some conn =>
    dsimp only
    split <;> simp

/-- **A call is read as it was meant** exactly if no text is sent, or every
    argument reads as itself between quotes and the text fits the buffer. -/
theorem statement_read_iff (mysql : MysqlAnswers) (call : SqlCall) :
    (∀ sql ∈ (call.run mysql).2, lex sql = some (tokens call.statement)) ↔
      mysql.borrow = none ∨
        ((∀ a ∈ call.arguments, plain a = true) ∧ call.textLength < dbMaxSqlLen) := by
  have hread : lex (snprintf dbMaxSqlLen (render call.statement)) =
        some (tokens call.statement) ↔
      (∀ a ∈ call.arguments, plain a = true) ∧ call.textLength < dbMaxSqlLen := by
    have hmem : ∀ a, a ∈ literals call.statement ↔ a ∈ call.arguments := fun a =>
      (literals_statement_perm call).mem_iff
    simp only [snprintf, lex_take_render_iff (wellFormed_statement call), length_render_statement,
      hmem]
    rw [and_comm, and_congr_right_iff]
    intro _
    simp only [dbMaxSqlLen]
    omega
  rw [run_sql, ← hread]
  by_cases hborrow : mysql.borrow = none
  · simp [mem_execute_iff, hborrow]
  · simp [mem_execute_iff, hborrow]

/-- A status with a quote in it. -/
theorem statement_misread :
    ¬ ∀ (mysql : MysqlAnswers) (call : SqlCall),
      ∀ sql ∈ (call.run mysql).2, lex sql = some (tokens call.statement) := by
  intro h
  have hread := h ⟨some 1, fun _ _ => some 1⟩ (.updateAgentStatus (cstr "1001") (cstr "o'k") 0) _
    List.mem_cons_self
  revert hread
  decide +kernel

end DbMysql.Statements
