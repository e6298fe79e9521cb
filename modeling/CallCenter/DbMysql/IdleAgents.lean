import CallCenter.DbMysql.Agents
import CallCenter.DbMysql.Statements
import CallCenter.DbRedis.Hgetall

/-! # `db_mysql_find_idle_agents`

    The SELECT that lists the idle agents of a department, and the JSON array
    that is made of its rows.

    * `idleStatement_read`: the server reads the statement as it is meant.
    * `results_inside_iff`: when the two functions that print a result of any
      size into a buffer of the caller stay inside that buffer. -/

namespace DbMysql

open CFormat BoundedPrint SqlText DbRedis

/-! ## Section 1: The statement -/

/-- A row of `agents` joined with its department. -/
structure DeptAgent extends AgentRow where
  deptKey : CStr
  lastActive : Option Int
  deriving DecidableEq, Repr

/-- `dept_key VARCHAR(32)`, of at most four bytes a character.  No key has a
    quote or a backslash in it. -/
structure DeptKey where
  text : CStr
  plain : plain text = true
  length_le : text.length ≤ 128

/-- `a.is_online = 1 AND a.status = 'idle' AND a.concurrent_calls = 0` -/
def DeptAgent.IsIdle (row : DeptAgent) : Prop :=
  row.isOnline = some 1 ∧ row.status = some (cstr "idle") ∧ row.concurrentCalls = some 0

instance (row : DeptAgent) : Decidable row.IsIdle := inferInstanceAs (Decidable (_ ∧ _))

/-- The agents of the department that are on line, idle and without calls. -/
def idleAgents (rows : List DeptAgent) (deptKey : CStr) : List DeptAgent :=
  rows.filter fun row => row.deptKey = deptKey ∧ row.IsIdle

/-- `ORDER BY a.last_active ASC`: NULL comes first. -/
def DeptAgent.Before (row row' : DeptAgent) : Prop :=
  match row.lastActive, row'.lastActive with
  | none, _ => True
  | some _, none => False
  | some t, some t' => t ≤ t'

instance (row row' : DeptAgent) : Decidable (row.Before row') := by
  unfold DeptAgent.Before
  split <;> infer_instance

/-- An order in which the server may list the idle agents; that of rows with
    the same `last_active` is not specified. -/
def Listing (rows : List DeptAgent) (deptKey : CStr) (found : List DeptAgent) : Prop :=
  found.Perm (idleAgents rows deptKey) ∧ found.Pairwise DeptAgent.Before

instance (rows : List DeptAgent) (deptKey : CStr) (found : List DeptAgent) :
    Decidable (Listing rows deptKey found) := inferInstanceAs (Decidable (_ ∧ _))

/-- The text given to `db_mysql_query`. -/
def findIdleSql (deptKey : CStr) (limitCount : Int32) : CStr :=
  snprintf Statements.dbMaxSqlLen
    (cstr "SELECT a.extension FROM agents a " ++
      cstr "JOIN departments d ON a.department_id = d.id " ++ cstr "WHERE d.dept_key = '" ++
      deptKey ++ cstr "' AND a.is_online = 1 " ++
      cstr "AND a.status = 'idle' AND a.concurrent_calls = 0 " ++
      cstr "ORDER BY a.last_active ASC LIMIT " ++ intText limitCount)

/-- The intended statement. -/
def idleStatement (deptKey : CStr) (limitCount : Int32) : List SqlPart :=
  [.text (cstr "SELECT a.extension FROM agents a "),
    .text (cstr "JOIN departments d ON a.department_id = d.id "),
    .text (cstr "WHERE d.dept_key = "), .literal deptKey, .text (cstr " AND a.is_online = 1 "),
    .text (cstr "AND a.status = "), .literal (cstr "idle"),
    .text (cstr " AND a.concurrent_calls = 0 "),
    .text (cstr "ORDER BY a.last_active ASC LIMIT "), .int limitCount]

theorem findIdleSql_eq (deptKey : CStr) (limitCount : Int32) :
    findIdleSql deptKey limitCount =
      snprintf Statements.dbMaxSqlLen (render (idleStatement deptKey limitCount)) := by
  have h₁ : cstr "WHERE d.dept_key = '" = cstr "WHERE d.dept_key = " ++ [39] := by decide +kernel
  have h₂ : cstr "' AND a.is_online = 1 " = 39 :: cstr " AND a.is_online = 1 " := by
    decide +kernel
  have h₃ : cstr "AND a.status = 'idle' AND a.concurrent_calls = 0 " =
      cstr "AND a.status = " ++ 39 :: (cstr "idle" ++ [39]) ++
        cstr " AND a.concurrent_calls = 0 " := by decide +kernel
  simp only [findIdleSql, idleStatement, h₁, h₂, h₃, render_cons, render_nil, SqlPart.render,
    List.append_assoc, List.cons_append, List.nil_append, List.append_nil]

theorem wellFormed_idleStatement (deptKey : CStr) (limitCount : Int32) :
    WellFormed (idleStatement deptKey limitCount) := by
  refine ⟨?_, ?_, ?_, nofun, ?_, ?_, nofun, ?_, ?_, trivial⟩
  all_goals decide +kernel

/-- For the key of a department the server reads the intended statement. -/
theorem idleStatement_read (deptKey : DeptKey) (limitCount : Int32) :
    lex (findIdleSql deptKey.text limitCount) =
      some (tokens (idleStatement deptKey.text limitCount)) := by
  have hformat : formatLength (idleStatement deptKey.text limitCount) = 198 := by
    simp only [idleStatement, formatLength, List.map_cons, List.map_nil, List.sum_cons,
      List.sum_nil]
    decide +kernel
  have hidle : (cstr "idle").length = 4 := by decide +kernel
  have hlength : (render (idleStatement deptKey.text limitCount)).length < 4096 := by
    have hkey := deptKey.length_le
    have hlimit := length_intText_le limitCount
    rw [length_render, hformat]
    simp only [literals, integers, idleStatement, List.filterMap_cons, List.filterMap_nil,
      List.map_cons, List.map_nil, List.sum_cons, List.sum_nil, hidle]
    omega
  rw [findIdleSql_eq, snprintf, lex_take_render_iff (wellFormed_idleStatement _ _)]
  refine ⟨by simp only [Statements.dbMaxSqlLen]; omega, ?_⟩
  simp only [literals, idleStatement, List.filterMap_cons, List.filterMap_nil, List.mem_cons,
    List.not_mem_nil, or_false, forall_eq_or_imp, forall_eq]
  exact ⟨deptKey.plain, by decide +kernel⟩

/-! ## Section 2: The listing -/

/-- `"%s\"%s\""` -/
def jsonItem (i : Nat) (extension : Option CStr) : CStr :=
  (if i > 0 then cstr "," else []) ++ cstr "\"" ++ extension.getD [] ++ cstr "\""

/-- The loop over the rows from `i` on. -/
def findIdleLoop (resultSize : Int32) : Nat → List (Option CStr) → Cursor → Cursor
  | i, row :: rest, c =>
    findIdleLoop resultSize (i + 1) rest (c.print resultSize.toInt (jsonItem i row))
  | _, [], c => c

/-- `db_mysql_find_idle_agents`: the result and the calls of `snprintf` on
    `result_json`.  `res` has the first columns of the rows, and is `none` when
    the query failed. -/
def dbMysqlFindIdleAgents (res : Option (List (Option CStr))) (resultSize : Int32) :
    Int32 × List Call :=
  match res with
  | none => (-1, [])
  | some rows =>
    let c := Cursor.start.print resultSize.toInt (cstr "[")
    let c := findIdleLoop resultSize 0 rows c
    (Int32.ofNat rows.length, (c.print resultSize.toInt (cstr "]")).calls)

/-- The members of the array, with the commas before them. -/
def jsonItems : List (Option CStr) → List CStr
  | [] => []
  | row :: rest => jsonItem 0 row :: rest.map (jsonItem 1)

/-- The JSON array of the extensions. -/
def jsonArray (rows : List (Option CStr)) : CStr :=
  cstr "[" ++ (jsonItems rows).flatten ++ cstr "]"

theorem findIdleLoop_later (resultSize : Int32) {i : Nat} (hi : 0 < i) (rows : List (Option CStr))
    (c : Cursor) :
    findIdleLoop resultSize i rows c = c.printAll resultSize.toInt (rows.map (jsonItem 1)) := by
  induction rows generalizing i c with
  | nil => rfl
  | cons row rest ih =>
    have hitem : jsonItem i row = jsonItem 1 row := by
      unfold jsonItem
      rw [if_pos hi, if_pos Nat.one_pos]
    rw [findIdleLoop, ih (by omega), hitem]
    rfl

theorem findIdleLoop_eq (resultSize : Int32) (rows : List (Option CStr)) (c : Cursor) :
    findIdleLoop resultSize 0 rows c = c.printAll resultSize.toInt (jsonItems rows) := by
  cases rows with
  | nil => rfl
  | cons row rest =>
    rw [findIdleLoop, findIdleLoop_later resultSize (by omega)]
    rfl

/-- The texts of all calls. -/
theorem dbMysqlFindIdleAgents_rows (rows : List (Option CStr)) (resultSize : Int32) :
    dbMysqlFindIdleAgents (some rows) resultSize =
      (Int32.ofNat rows.length, (Cursor.start.printAll resultSize.toInt
        (cstr "[" :: jsonItems rows ++ [cstr "]"])).calls) := by
  rw [List.cons_append, printAll_cons, printAll_append, ← findIdleLoop_eq]
  rfl

theorem jsonArray_eq (rows : List (Option CStr)) :
    jsonArray rows = (cstr "[" :: jsonItems rows).flatten ++ cstr "]" := rfl

/-- Quotes and commas besides the extensions. -/
theorem length_jsonArray (rows : List (Option CStr)) :
    (jsonArray rows).length =
      2 + (rows.map fun row => (row.getD []).length + 2).sum + (rows.length - 1) := by
  have hopen : (cstr "[").length = 1 := by decide +kernel
  have hclose : (cstr "]").length = 1 := by decide +kernel
  have hquote : (cstr "\"").length = 1 := by decide +kernel
  have hcomma : (cstr ",").length = 1 := by decide +kernel
  have hlater : ∀ rest : List (Option CStr), (rest.map (jsonItem 1)).flatten.length =
      (rest.map fun row => (row.getD []).length + 2).sum + rest.length := by
    intro rest
    induction rest with
    | nil => rfl
    | cons row rest ih =>
      simp only [List.map_cons, List.flatten_cons, List.length_append, ih, List.sum_cons,
        List.length_cons, jsonItem, if_pos Nat.one_pos, hcomma, hquote]
      omega
  cases rows with
  | nil => decide +kernel
  | cons row rest =>
    simp only [jsonArray, jsonItems, List.flatten_cons, List.length_append, hlater, hopen, hclose,
      jsonItem, Nat.lt_irrefl, gt_iff_lt, if_false, hquote, List.length_nil, List.map_cons,
      List.sum_cons, List.length_cons]
    omega

theorem length_jsonArray_perm {rows rows' : List (Option CStr)} (h : rows.Perm rows') :
    (jsonArray rows).length = (jsonArray rows').length := by
  rw [length_jsonArray, length_jsonArray, h.length_eq, (h.map _).sum_eq]

theorem findIdle_inside_iff (rows : List (Option CStr)) (resultSize : Int32) :
    (∀ call ∈ (dbMysqlFindIdleAgents (some rows) resultSize).2, call.Inside resultSize.toInt) ↔
      (jsonArray rows).length ≤ resultSize.toInt := by
  have hsize := resultSize.toInt_lt
  rw [dbMysqlFindIdleAgents_rows, jsonArray_eq]
  exact inside_closed_iff (by omega) _ rfl

theorem findIdle_holds {rows : List (Option CStr)} {resultSize : Int32}
    (hfit : (jsonArray rows).length ≤ resultSize.toInt) (mem : Int → UInt8) :
    Holds resultSize.toInt.toNat
      ((dbMysqlFindIdleAgents (some rows) resultSize).2.foldl Call.store mem)
      (jsonArray rows) := by
  have hsize := resultSize.toInt_lt
  obtain ⟨size, hcast⟩ := Int.eq_ofNat_of_zero_le (a := resultSize.toInt) (by omega)
  rw [dbMysqlFindIdleAgents_rows, hcast, jsonArray_eq]
  rw [hcast, jsonArray_eq] at hfit
  rw [hcast] at hsize
  exact holds_closed (by omega) mem rfl (by omega)

/-! ## Section 3: Both listings -/

/-- Every call of `snprintf` is made with the room that is left in the result
    buffer, exactly if the JSON text has at most as many bytes as the buffer. -/
theorem results_inside_iff (resultSize : Int32) :
    (∀ connected reply, (∀ call ∈ (dbRedisHgetall connected reply resultSize).2,
        call.Inside resultSize.toInt) ↔
      ∀ elements, connected = true → reply = some (.array elements) →
        (jsonObject (replyPairs elements)).length ≤ resultSize.toInt) ∧
    (∀ res, (∀ call ∈ (dbMysqlFindIdleAgents res resultSize).2,
        call.Inside resultSize.toInt) ↔
      ∀ rows, res = some rows → (jsonArray rows).length ≤ resultSize.toInt) := by
  constructor
  · intro connected reply
    cases connected with
    | false => exact iff_of_true nofun nofun
    | true =>
      match reply with
      | none => exact iff_of_true nofun nofun
      | some .other => exact iff_of_true nofun nofun
      | some (.array elements) =>
        rw [hgetall_inside_iff]
        simp
  · intro res
    cases res with
    | none => exact iff_of_true nofun nofun
    | some rows =>
      rw [findIdle_inside_iff]
      simp

/-- A hash with one field, in a buffer of four bytes. -/
theorem results_overflow :
    ¬ ∀ (elements : List CStr) (resultSize : Int32), 1 ≤ resultSize.toInt →
      ∀ call ∈ (dbRedisHgetall true (some (.array elements)) resultSize).2,
        call.Inside resultSize.toInt := by
  intro h
  have hinside := h [cstr "a", cstr "b"] 4 (by decide)
  rw [hgetall_inside_iff] at hinside
  revert hinside
  decide +kernel

end DbMysql
