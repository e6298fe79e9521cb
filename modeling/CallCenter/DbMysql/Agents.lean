import Mathlib.Data.List.Nodup
import CallCenter.Framework.CFormat

/-! # The `agents` Table

    What `schema.sql` declares of the table, and the statements of
    `db_mysql.c` on it.  `db_mysql_update_agent_status` and
    `db_mysql_query_agent_single` name their row by its extension, which the
    schema declares UNIQUE.

    `agentPair` is what a cache-aside reader is told about an extension;
    `agentPair_setStatus` says what an UPDATE does to it. -/

namespace DbMysql

open CFormat

/-! ## Section 1: Rows -/

/-- The columns of `agents` that the program reads or writes here.  `none` is
    SQL's NULL; of the five only `extension` is declared NOT NULL. -/
structure AgentRow where
  extension : CStr
  isOnline : Option Int32
  status : Option CStr
  concurrentCalls : Option Int32
  deriving DecidableEq, Repr

structure AgentTable where
  rows : List AgentRow
  unique : (rows.map AgentRow.extension).Nodup

/-- `ENUM('idle','busy','ringing','hold','offline')` -/
def agentStatusNames : List CStr :=
  [cstr "idle", cstr "busy", cstr "ringing", cstr "hold", cstr "offline"]

def AgentTable.find (t : AgentTable) (extension : CStr) : Option AgentRow :=
  t.rows.find? fun row => row.extension = extension

/-- The extension is a row of the table. -/
def AgentTable.HasRow (t : AgentTable) (extension : CStr) : Prop :=
  extension ∈ t.rows.map AgentRow.extension

instance (t : AgentTable) (extension : CStr) : Decidable (t.HasRow extension) :=
  inferInstanceAs (Decidable (extension ∈ t.rows.map AgentRow.extension))

/-! ## Section 2: Statements -/

/-- `UPDATE agents SET status='%s', concurrent_calls=%d, … WHERE extension='%s'`
    on one row; a status outside the ENUM is an error, and the row stays. -/
def setRowStatus (extension status : CStr) (concurrentCalls : Int32) (row : AgentRow) :
    AgentRow :=
  if row.extension = extension ∧ status ∈ agentStatusNames then
    { row with status := some status, concurrentCalls := some concurrentCalls }
  else row

@[simp] theorem setRowStatus_extension (extension status : CStr) (calls : Int32)
    (row : AgentRow) : (setRowStatus extension status calls row).extension = row.extension := by
  unfold setRowStatus
  split <;> rfl

@[simp] theorem setRowStatus_isOnline (extension status : CStr) (calls : Int32)
    (row : AgentRow) : (setRowStatus extension status calls row).isOnline = row.isOnline := by
  unfold setRowStatus
  split <;> rfl

theorem map_setRowStatus (extension status : CStr) (calls : Int32) (rows : List AgentRow) :
    (rows.map (setRowStatus extension status calls)).map AgentRow.extension =
      rows.map AgentRow.extension := by
  simp [List.map_map, Function.comp_def]

/-- `db_mysql_update_agent_status` when the server executes the statement. -/
def dbMysqlUpdateAgentStatus (t : AgentTable) (extension status : CStr)
    (concurrentCalls : Int32) : AgentTable where
  rows := t.rows.map (setRowStatus extension status concurrentCalls)
  unique := by
    rw [map_setRowStatus]
    exact t.unique

/-- A row of `SELECT status, concurrent_calls FROM agents WHERE extension = '%s'`
    as the client library returns it. -/
def statusRow (row : AgentRow) : Option CStr × Option CStr :=
  (row.status, row.concurrentCalls.map intText)

/-- The return code, `status_out` and `concurrent_calls_out` of
    `db_mysql_query_agent_single`, called with a zeroed buffer of 32 bytes.
    `res` is the result set, `none` when the query failed. -/
def dbMysqlQueryAgentSingle (res : Option (Option (Option CStr × Option CStr))) :
    Int × CStr × Int32 :=
  match res with
  | none => (-1, cstr "offline", 0)
  | some none => (-1, cstr "offline", 0)
  | some (some (status, calls)) =>
    -- `if (status_out && row[0])`: with a NULL status the buffer stays zeroed
    (0, (status.getD []).take 31, (calls.map atoi).getD 0)

/-! ## Section 3: What a reader is told -/

/-- The status and the number of calls that `db_mysql_query_agent_single`
    reports for an extension when the query succeeds. -/
def AgentTable.agentPair (t : AgentTable) (extension : CStr) : CStr × Int32 :=
  (dbMysqlQueryAgentSingle (some ((t.find extension).map statusRow))).2

theorem AgentTable.find_isSome_iff {t : AgentTable} {extension : CStr} :
    (t.find extension).isSome ↔ t.HasRow extension := by
  simp [find, HasRow, List.find?_isSome]

theorem AgentTable.hasRow_update {t : AgentTable} {e extension status : CStr} {calls : Int32} :
    (dbMysqlUpdateAgentStatus t extension status calls).HasRow e ↔ t.HasRow e := by
  unfold HasRow dbMysqlUpdateAgentStatus
  rw [map_setRowStatus]

theorem AgentTable.find_of_mem {t : AgentTable} {row : AgentRow} (hrow : row ∈ t.rows) :
    t.find row.extension = some row := by
  obtain ⟨rows, hnd⟩ := t
  simp only [find] at hrow ⊢
  induction rows with
  | nil => simp at hrow
  | cons first rest ih =>
    rw [List.map_cons, List.nodup_cons] at hnd
    rcases List.mem_cons.mp hrow with rfl | hmem
    · simp
    · have hne : first.extension ≠ row.extension := by
        intro heq
        exact hnd.1 (heq ▸ List.mem_map_of_mem hmem)
      rw [List.find?_cons_of_neg (by simpa using hne)]
      exact ih hnd.2 hmem

theorem AgentTable.find_update (t : AgentTable) (e extension status : CStr) (calls : Int32) :
    (dbMysqlUpdateAgentStatus t extension status calls).find e =
      (t.find e).map (setRowStatus extension status calls) := by
  have hkeeps : (fun row : AgentRow => decide (row.extension = e)) ∘
      setRowStatus extension status calls = fun row => decide (row.extension = e) := by
    funext row
    rw [Function.comp_apply, setRowStatus_extension]
  unfold find dbMysqlUpdateAgentStatus
  rw [List.find?_map, hkeeps]

/-- The rows of other extensions stay. -/
theorem AgentTable.agentPair_update_ne {t : AgentTable} {e extension status : CStr}
    {calls : Int32} (hne : e ≠ extension) :
    (dbMysqlUpdateAgentStatus t extension status calls).agentPair e = t.agentPair e := by
  unfold agentPair
  rw [find_update]
  cases hfind : t.find e with
  | none => rfl
  | some row =>
    have hext : row.extension = e := by simpa using List.find?_some hfind
    have hother : ¬ (row.extension = extension ∧ status ∈ agentStatusNames) := by
      intro h
      exact hne (hext.symm.trans h.1)
    rw [Option.map_some, setRowStatus, if_neg hother]

theorem length_agentStatusNames {status : CStr} (h : status ∈ agentStatusNames) :
    status.length ≤ 31 := by
  have hall : ∀ name ∈ agentStatusNames, name.length ≤ 31 := by decide
  exact hall status h

/-- A reader is told what the last UPDATE wrote. -/
theorem AgentTable.agentPair_update_self {t : AgentTable} {extension status : CStr}
    {calls : Int32} (hrow : t.HasRow extension) (hstatus : status ∈ agentStatusNames) :
    (dbMysqlUpdateAgentStatus t extension status calls).agentPair extension =
      (status, calls) := by
  obtain ⟨row, hfind⟩ := Option.isSome_iff_exists.mp (find_isSome_iff.mpr hrow)
  have hext : row.extension = extension := by simpa using List.find?_some hfind
  have hset : setRowStatus extension status calls row =
      { row with status := some status, concurrentCalls := some calls } := by
    rw [setRowStatus, if_pos ⟨hext, hstatus⟩]
  unfold agentPair
  rw [find_update, hfind, Option.map_some, hset]
  simp [statusRow, dbMysqlQueryAgentSingle, atoi_intText, length_agentStatusNames hstatus]

/-- An UPDATE of an extension without a row changes nothing a reader sees. -/
theorem AgentTable.agentPair_update_of_not_hasRow {t : AgentTable} {e extension status : CStr}
    {calls : Int32} (hrow : ¬ t.HasRow extension) :
    (dbMysqlUpdateAgentStatus t extension status calls).agentPair e = t.agentPair e := by
  by_cases he : e = extension
  · subst he
    have hnone : t.find e = none := by
      rw [← Option.not_isSome_iff_eq_none, find_isSome_iff]
      exact hrow
    unfold agentPair
    rw [find_update, hnone]
    rfl
  · exact agentPair_update_ne he

/-- A row's own columns, read as the cache warm-up reads them. -/
theorem AgentTable.agentPair_of_mem {t : AgentTable} {row : AgentRow} (hrow : row ∈ t.rows) :
    t.agentPair row.extension =
      ((row.status.getD []).take 31, ((row.concurrentCalls.map intText).map atoi).getD 0) := by
  unfold agentPair
  rw [find_of_mem hrow]
  rfl

/-! ## Section 4: The column `is_online` -/

/-- The extensions with their `is_online`. -/
def AgentTable.onlineColumn (t : AgentTable) : List (CStr × Option Int32) :=
  t.rows.map fun row => (row.extension, row.isOnline)

/-- The types that the schema declares: `extension VARCHAR(16)`, of at most
    four bytes a character, and `is_online TINYINT(1)`. -/
def AgentTable.Declared (t : AgentTable) : Prop :=
  ∀ extension isOnline, (extension, isOnline) ∈ t.onlineColumn →
    extension.length ≤ 64 ∧ ∀ v, isOnline = some v → -128 ≤ v.toInt ∧ v.toInt ≤ 127

/-- The UPDATE does not mention the column. -/
@[simp] theorem AgentTable.onlineColumn_update (t : AgentTable) (extension status : CStr)
    (calls : Int32) :
    (dbMysqlUpdateAgentStatus t extension status calls).onlineColumn = t.onlineColumn := by
  simp [onlineColumn, dbMysqlUpdateAgentStatus, List.map_map, Function.comp_def]

theorem AgentTable.hasRow_iff_onlineColumn {t : AgentTable} {extension : CStr} :
    t.HasRow extension ↔ ∃ isOnline, (extension, isOnline) ∈ t.onlineColumn := by
  simp only [HasRow, onlineColumn, List.mem_map, Prod.mk.injEq]
  constructor
  · rintro ⟨row, hrow, hext⟩
    exact ⟨row.isOnline, row, hrow, hext, rfl⟩
  · rintro ⟨isOnline, row, hrow, hext, -⟩
    exact ⟨row, hrow, hext⟩

end DbMysql
