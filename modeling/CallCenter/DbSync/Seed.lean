import CallCenter.DbSync.Sync
import CallCenter.Framework.BoundedPrint
import Mathlib.Data.List.GetD

/-! # Demo Data

    `db_sync_seed_demo_data` fills `extensions` and `agents`: for each
    department a loop over batches, for each batch one INSERT that a second
    loop prints row by row, into a static buffer.

    * `seedRows_eq`: what the loop over the rows prints; the exit for a buffer
      that is almost full is not taken.
    * `seedBatches_emits`: what the loop over the batches sends.
    * `seedDept_seedsRange`: the rows of a department, for counters of names
      that C's `%` keeps inside the tables.
    * `seedDemoData_emits`: the statements of a whole run. -/

namespace DbSync

open CFormat BoundedPrint

/-! ## Section 1: The tables -/

/-- `surnames` -/
def surnames : List CStr :=
  ["张", "李", "王", "刘", "陈", "杨", "赵", "黄", "周", "吴",
    "徐", "孙", "马", "胡", "朱", "郭", "何", "林", "罗", "高"].map cstr

/-- `SURNAME_COUNT` -/
def surnameCount : Int32 := 20

/-- `given_names` -/
def givenNames : List CStr :=
  ["明", "华", "伟", "芳", "强", "丽", "勇", "敏", "静",
    "磊", "洋", "婷", "军", "雪", "峰", "玲", "涛", "娜",
    "刚", "娟", "文", "超", "艳", "杰", "秀", "辉", "鑫",
    "兰", "宁", "龙", "凤", "宇", "霞", "博", "怡", "飞",
    "晨", "萍", "浩", "慧", "志", "燕", "鹏", "凯", "琴",
    "旭", "琳", "睿", "佳", "恒"].map cstr

/-- `GIVEN_COUNT` -/
def givenCount : Int32 := 50

/-- `dept_seed_t`, without the key, which is only logged. -/
structure DeptSeed where
  deptId : Int32
  rangeStart : CStr
  rangeEnd : CStr
  externalAccess : Bool

/-- `dept_seeds` -/
def deptSeeds : List DeptSeed :=
  [⟨1, cstr "1001", cstr "1050", false⟩, ⟨2, cstr "1101", cstr "1150", false⟩,
    ⟨3, cstr "1201", cstr "1250", false⟩, ⟨4, cstr "1301", cstr "1330", false⟩,
    ⟨5, cstr "2001", cstr "2400", true⟩, ⟨6, cstr "2501", cstr "2800", true⟩,
    ⟨7, cstr "2901", cstr "2980", true⟩, ⟨8, cstr "3001", cstr "3200", false⟩,
    ⟨9, cstr "9001", cstr "9050", true⟩]

/-- `SEED_BATCH_ROWS` -/
def seedBatchRows : Nat := 200

/-- `SEED_SQL_BUF_SIZE` -/
def seedSqlBufSize : Nat := 128 * 1024

/-! ## Section 2: One statement -/

/-- What `%04d` prints. -/
def fourDigitText (v : Int) : CStr :=
  if v < 0 then 45 :: (natText v.natAbs).leftpad 3 48 else (natText v.natAbs).leftpad 4 48

/-- `"('%04d','%s%s',%d)"`, with the two names together. -/
def extensionRow (ext : Int) (name : CStr) (deptId : Int32) : CStr :=
  cstr "('" ++ fourDigitText ext ++ cstr "','" ++ name ++ cstr "'," ++ intText deptId ++ cstr ")"

/-- `"('%04d',%d,1,'idle',0,'%c')"` -/
def agentRow (ext : Int) (deptId : Int32) (shift : UInt8) : CStr :=
  cstr "('" ++ fourDigitText ext ++ cstr "'," ++ intText deptId ++ cstr ",1,'idle',0,'" ++
    shift :: cstr "')"

/-- Indexing a table of names; `none` is a read outside of it. -/
def nameAt (names : List CStr) (idx : Int32) : Option CStr :=
  if idx < 0 then none else names[idx.toInt.toNat]?

/-- The name of the next employee, and the counter behind it, which must not
    overflow. -/
def nextName (nameIdx : Int32) : Option (CStr × Int32) := do
  let surname ← nameAt surnames (nameIdx % surnameCount)
  let given ← nameAt givenNames (nameIdx % givenCount)
  if nameIdx = Int32.maxValue then none else some (surname ++ given, nameIdx + 1)

/-- `(char)('A' + count % 3)` -/
def shiftLetter (count : Nat) : UInt8 := UInt8.ofNat (65 + count % 3)

/-- The row of an employee in `seed_insert_batch`. -/
def extensionStep (deptId : Int32) (ext : Int) (_ : Nat) (nameIdx : Int32) :
    Option (CStr × Int32) := do
  let (name, nameIdx) ← nextName nameIdx
  some (extensionRow ext name deptId, nameIdx)

/-- The row of an agent in `seed_insert_agents_batch`, which uses no names. -/
def agentStep (deptId : Int32) (ext : Int) (count : Nat) (_ : Unit) : Option (CStr × Unit) :=
  some (agentRow ext deptId (shiftLetter count), ())

/-- `"INSERT INTO %s (%s) VALUES "` -/
def insertHeader (table columns : CStr) : CStr :=
  cstr "INSERT INTO " ++ table ++ cstr " (" ++ columns ++ cstr ") VALUES "

def agentsHeader : CStr :=
  cstr "INSERT INTO agents (extension, department_id, is_online, status, " ++
    cstr "concurrent_calls, shift) VALUES "

def agentsTail : CStr :=
  cstr " ON DUPLICATE KEY UPDATE is_online=1, status='idle', " ++
    cstr "concurrent_calls=0, last_active=NOW()"

/-- The loop over the rows, from the extension `ext` on.  `row` makes the next
    row from its number in the statement and the names used so far. -/
def seedRows {ν : Type} (row : Int → Nat → ν → Option (CStr × ν)) (endExt ext : Int)
    (count : Nat) (names : ν) (c : Cursor) : Option (Nat × ν × Cursor) :=
  if ext ≤ endExt ∧ count < seedBatchRows then
    match row ext count names with
    | none => none
    | some (text, names) =>
      let c := if 0 < count then c.print seedSqlBufSize (cstr ",") else c
      let c := c.print seedSqlBufSize text
      -- the row is printed, but not counted
      if c.offset ≥ (seedSqlBufSize : Int) - 256 then some (count, names, c)
      else seedRows row endExt (ext + 1) (count + 1) names c
  else some (count, names, c)
termination_by seedBatchRows - count

/-- What the two functions print: nothing comes behind a list without rows. -/
def seedStatement {ν : Type} (header : CStr) (row : Int → Nat → ν → Option (CStr × ν))
    (tail : List CStr) (startExt endExt : Int) (names : ν) : Option (Nat × ν × Cursor) := do
  let c := Cursor.start.print seedSqlBufSize header
  let (count, names, c) ← seedRows row endExt startExt 0 names c
  if count = 0 then some (0, names, c) else some (count, names, c.printAll seedSqlBufSize tail)

/-- The variables of `db_sync_seed_demo_data`, the static buffers, the calls of
    `snprintf` and the statements that were sent. -/
structure Seeding where
  nameIdx : Int32
  totalExt : Int32
  totalAgents : Int32
  extensionsSql : Int → UInt8
  agentsSql : Int → UInt8
  calls : List Call
  sent : List CStr

section Run

-- what `db_mysql_execute_long` returns for the last of the statements sent
variable (execute : List CStr → Int32)

/-- `seed_insert_batch` -/
def seedInsertBatch (table columns : CStr) (startExt endExt : Int) (deptId : Int32)
    (s : Seeding) : Option (Int32 × Seeding) := do
  let (count, nameIdx, c) ← seedStatement (insertHeader table columns) (extensionStep deptId) []
    startExt endExt s.nameIdx
  let after := { s with
    nameIdx
    calls := s.calls ++ c.calls
    extensionsSql := c.calls.foldl Call.store s.extensionsSql }
  if count = 0 then some (0, after)
  else
    let sent := s.sent ++ [c.printed s.extensionsSql]
    some (execute sent, { after with sent })

/-- `seed_insert_agents_batch` -/
def seedInsertAgentsBatch (startExt endExt : Int) (deptId : Int32) (s : Seeding) :
    Option (Int32 × Seeding) := do
  let (count, _, c) ← seedStatement agentsHeader (agentStep deptId) [agentsTail]
    startExt endExt ()
  let after := { s with
    calls := s.calls ++ c.calls
    agentsSql := c.calls.foldl Call.store s.agentsSql }
  if count = 0 then some (0, after)
  else
    let sent := s.sent ++ [c.printed s.agentsSql]
    some (execute sent, { after with sent })

/-! ## Section 3: All statements -/

/-- The two loops over the batches, from `batchStart` on; `insert` is their body. -/
def seedBatches (insert : Int → Int → Seeding → Option Seeding) (endExt batchStart : Int)
    (s : Seeding) : Option Seeding :=
  if batchStart ≤ endExt then
    let batchEnd := batchStart + seedBatchRows - 1
    let batchEnd := if batchEnd > endExt then endExt else batchEnd
    match insert batchStart batchEnd s with
    | none => none
    | some s => seedBatches insert endExt (batchStart + seedBatchRows) s
  else some s
termination_by (endExt + 1 - batchStart).toNat
decreasing_by
  have hrows : (seedBatchRows : Int) = 200 := rfl
  omega

/-- The body of the loop over the batches of extensions. -/
def seedExtensions (deptId : Int32) (batchStart batchEnd : Int) (s : Seeding) :
    Option Seeding := do
  let (rows, s) ← seedInsertBatch execute (cstr "extensions")
    (cstr "extension,employee_name,department_id") batchStart batchEnd deptId s
  some (if rows ≥ 0 then { s with totalExt := s.totalExt + rows } else s)

/-- The body of the loop over the batches of agents. -/
def seedAgents (deptId : Int32) (batchStart batchEnd : Int) (s : Seeding) :
    Option Seeding := do
  let (rows, s) ← seedInsertAgentsBatch execute batchStart batchEnd deptId s
  some (if rows ≥ 0 then { s with totalAgents := s.totalAgents + rows } else s)

/-- The loop over the departments, for one of them. -/
def seedDept (startExt endExt : Int) (deptId : Int32) (externalAccess : Bool) (s : Seeding) :
    Option Seeding := do
  let s ← seedBatches (seedExtensions execute deptId) endExt startExt s
  if externalAccess then seedBatches (seedAgents execute deptId) endExt startExt s else some s

/-- The loop over the departments. -/
def seedDepts : List DeptSeed → Seeding → Option Seeding
  | [], s => some s
  | ds :: rest, s => do
    let s ← seedDept execute (atoi ds.rangeStart).toInt (atoi ds.rangeEnd).toInt ds.deptId
      ds.externalAccess s
    seedDepts rest s

/-- `db_sync_seed_demo_data`; `existing` is what
    `db_mysql_load_all_agents_for_cache` returns. -/
def dbSyncSeedDemoData (sync : Option SyncFields) (existing : Int32) (s : Seeding) :
    Option (Int32 × Seeding) :=
  match sync with
  | none => some (-1, s)
  | some sync =>
    if !sync.dbEnabled ∨ !sync.mysqlPool then some (-1, s)
    -- there are data already
    else if existing > 100 then some (existing, s)
    else do
      let s ← seedDepts execute deptSeeds { s with nameIdx := 0, totalExt := 0, totalAgents := 0 }
      some (s.totalExt, s)

end Run

/-! ## Section 4: The rows of a statement -/

/-- What is printed for row `k`. -/
def rowTexts (text : Nat → CStr) (k : Nat) : List CStr :=
  if 0 < k then [cstr ",", text k] else [text k]

theorem length_comma : (cstr ",").length = 1 := by decide +kernel

theorem length_rowTexts_le {text : Nat → CStr} {k bound : Nat} (h : (text k).length ≤ bound) :
    (rowTexts text k).flatten.length ≤ bound + 1 := by
  unfold rowTexts
  split <;> simp only [List.flatten_cons, List.flatten_nil, List.length_append, List.length_nil,
    length_comma] <;> omega

/-- The loop prints its rows, with a comma before each but the first.  No row
    comes near the end of the buffer, so only the two limits stop it. -/
theorem seedRows_eq {ν : Type} {row : Int → Nat → ν → Option (CStr × ν)} {startExt endExt : Int}
    {text : Nat → CStr} {names : Nat → ν} {n : Nat} (hrange : startExt + n ≤ endExt + 1)
    (hrows : n ≤ seedBatchRows) (hstop : startExt + n = endExt + 1 ∨ n = seedBatchRows)
    (hrow : ∀ k < n, row (startExt + k) k (names k) = some (text k, names (k + 1)))
    (hlength : ∀ k < n, (text k).length ≤ 60) {m k : Nat} (hm : k + m = n) {c : Cursor}
    (hroom : c.offset + 61 * m < (seedSqlBufSize : Int) - 256) :
    seedRows row endExt (startExt + k) k (names k) c =
      some (n, names n,
        c.printAll seedSqlBufSize ((List.range' k m).flatMap (rowTexts text))) := by
  -- on the rows that are left, from row `k` on
  induction m generalizing k c with
  | zero =>
    obtain rfl : k = n := by omega
    unfold seedRows
    rw [if_neg (by omega)]
    rfl
  | succ m ih =>
    have hprint : (if 0 < k then c.print seedSqlBufSize (cstr ",") else c).print seedSqlBufSize
        (text k) = c.printAll seedSqlBufSize (rowTexts text k) := by
      unfold rowTexts
      split <;> rfl
    have hoffset : (c.printAll seedSqlBufSize (rowTexts text k)).offset =
        c.offset + (rowTexts text k).flatten.length := offset_printAll c (rowTexts text k)
    have hle := length_rowTexts_le (hlength k (by omega))
    have hnext : startExt + k + 1 = startExt + (k + 1 : Nat) := by
      push_cast
      omega
    unfold seedRows
    rw [if_pos (by omega), hrow k (by omega)]
    simp only [hprint]
    push_cast at hroom
    -- `hroom` keeps the offset below the limit for the exit
    rw [if_neg (by omega), hnext, ih (by omega) (by omega), List.range'_succ, List.flatMap_cons,
      printAll_append]

theorem flatMap_rowTexts (text : Nat → CStr) (n : Nat) :
    (List.range' 0 n).flatMap (rowTexts text) =
      ((List.range n).map text).intersperse (cstr ",") := by
  cases n with
  | zero => rfl
  | succ n =>
    have hlater : ∀ k ∈ List.range' 1 n, rowTexts text k = [cstr ",", text k] := by
      intro k hk
      have hpos := (List.mem_range'_1.mp hk).1
      exact if_pos hpos
    rw [List.range_eq_range', List.range'_succ, List.map_cons, intersperse_cons,
      List.flatMap_cons, List.flatMap_map, List.flatMap_congr hlater]
    rfl

theorem length_flatMap_rowTexts_le {text : Nat → CStr} {bound : Nat} {rows : List Nat}
    (h : ∀ k ∈ rows, (text k).length ≤ bound) :
    (rows.flatMap (rowTexts text)).flatten.length ≤ (bound + 1) * rows.length := by
  induction rows with
  | nil => exact Nat.zero_le _
  | cons k rows ih =>
    obtain ⟨hk, hrows⟩ := List.forall_mem_cons.mp h
    have hrow := length_rowTexts_le hk
    have hrest := ih hrows
    rw [List.flatMap_cons, List.flatten_append, List.length_append, List.length_cons,
      Nat.mul_succ]
    omega

/-- The text between the header and the tail has room in the buffer. -/
theorem length_rows_le {text : Nat → CStr} {n : Nat} (hrows : n ≤ seedBatchRows)
    (hlength : ∀ k < n, (text k).length ≤ 60) :
    (((List.range n).map text).intersperse (cstr ",")).flatten.length ≤ 12200 := by
  have hmax : seedBatchRows = 200 := rfl
  have hrange : ∀ k ∈ List.range' 0 n, (text k).length ≤ 60 := by
    intro k hk
    have hlt := (List.mem_range'_1.mp hk).2
    exact hlength k (by omega)
  have hle := length_flatMap_rowTexts_le hrange
  rw [flatMap_rowTexts, List.length_range'] at hle
  omega

/-- A statement whose parts have room: every call is inside the buffer, which
    then holds the statement. -/
theorem printed_statement (texts : List CStr) (htexts : texts ≠ [])
    (hfit : texts.flatten.length < seedSqlBufSize) (mem : Int → UInt8) :
    (∀ call ∈ (Cursor.start.printAll seedSqlBufSize texts).calls,
      call.Inside seedSqlBufSize) ∧
    (Cursor.start.printAll seedSqlBufSize texts).printed mem = texts.flatten := by
  have hsize : seedSqlBufSize = 131072 := rfl
  have hlast := length_dropLast_flatten_le texts
  constructor
  · rw [inside_printAll_iff (by omega) (Int.le_refl 0) htexts]
    have hzero : Cursor.start.offset = 0 := rfl
    exact ⟨nofun, by omega⟩
  · exact printed_printAll (by omega) mem htexts hfit

/-- A whole statement: the header, the rows with single commas between them,
    and the tail. -/
theorem seedStatement_eq {ν : Type} (row : Int → Nat → ν → Option (CStr × ν))
    {startExt endExt : Int} {text : Nat → CStr} (names : Nat → ν) {n : Nat} (hpos : 0 < n)
    (hend : startExt + n = endExt + 1) (hrows : n ≤ seedBatchRows)
    (hrow : ∀ k < n, row (startExt + k) k (names k) = some (text k, names (k + 1)))
    (hlength : ∀ k < n, (text k).length ≤ 60) {header : CStr} (hheader : header.length ≤ 256)
    (tail : List CStr) (htail : tail.flatten.length ≤ 256) :
    ∃ c, seedStatement header row tail startExt endExt (names 0) = some (n, names n, c) ∧
      (∀ call ∈ c.calls, call.Inside seedSqlBufSize) ∧
      ∀ mem, c.printed mem =
        header ++ (cstr ",").intercalate ((List.range n).map text) ++ tail.flatten := by
  have hsize : seedSqlBufSize = 131072 := rfl
  have hmax : seedBatchRows = 200 := rfl
  have hloop := seedRows_eq (by omega) hrows (.inl hend) hrow hlength (Nat.zero_add n)
    (c := Cursor.start.print seedSqlBufSize header)
    (by simp only [Cursor.print, Cursor.start]; omega)
  rw [Nat.cast_zero, Int.add_zero] at hloop
  have hfit := length_rows_le hrows hlength
  have hprinted := printed_statement
    (header :: (((List.range n).map text).intersperse (cstr ",") ++ tail))
    (List.cons_ne_nil _ _)
    (by simp only [List.flatten_cons, List.flatten_append, List.length_append]; omega)
  refine ⟨_, ?_, (hprinted fun _ => 0).1, fun mem => ?_⟩
  · unfold seedStatement
    dsimp only
    rw [hloop, Option.bind_eq_bind, Option.bind_some]
    dsimp only
    rw [if_neg (by omega), flatMap_rowTexts, printAll_cons, printAll_append]
  · rw [(hprinted mem).2, List.flatten_cons, List.flatten_append, List.intercalate,
      List.append_assoc]

/-! ### Names -/

/-- The name for the counter `k`. -/
def employeeName (k : Nat) : CStr := surnames.getD (k % 20) [] ++ givenNames.getD (k % 50) []

theorem getD_length {names : List CStr} {n : Nat} (hlength : ∀ name ∈ names, name.length = n)
    {k : Nat} (hk : k < names.length) : (names.getD k []).length = n := by
  rw [List.getD_eq_getElem _ _ hk]
  exact hlength _ (List.getElem_mem hk)

theorem length_employeeName (k : Nat) : (employeeName k).length = 6 := by
  have hsurnames : surnames.length = 20 := by decide +kernel
  have hgiven : givenNames.length = 50 := by decide +kernel
  unfold employeeName
  rw [List.length_append, getD_length (n := 3) (by decide +kernel) (by omega),
    getD_length (n := 3) (by decide +kernel) (by omega)]

/-- There are a hundred names, not a thousand: both tables are indexed with
    the same counter. -/
theorem employeeName_period (k : Nat) : employeeName (k + 100) = employeeName k := by
  have hsurname : (k + 100) % 20 = k % 20 := by omega
  have hgiven : (k + 100) % 50 = k % 50 := by omega
  unfold employeeName
  rw [hsurname, hgiven]

theorem nameAt_mod (names : List CStr) (count : Int32) (hpos : 0 < names.length)
    (hcount : count.toInt = names.length) {v : Int} (hlo : 0 ≤ v) (hhi : v < 2 ^ 31) :
    nameAt names (Int32.ofInt v % count) = some (names.getD (v.toNat % names.length) []) := by
  have hmod : (Int32.ofInt v % count).toInt = (v.toNat % names.length : Nat) := by
    rw [Int32.toInt_mod, Int32.toInt_ofInt_of_le (by omega) hhi, hcount,
      Int.tmod_eq_emod_of_nonneg hlo, Int.natCast_mod, Int.toNat_of_nonneg hlo]
  have hlt := Nat.mod_lt v.toNat hpos
  unfold nameAt
  rw [if_neg, hmod, Int.toNat_natCast, List.getElem?_eq_getElem hlt,
    List.getD_eq_getElem _ _ hlt]
  rw [Int32.lt_iff_toInt_lt, hmod]
  exact not_lt.mpr (Int.natCast_nonneg _)

/-- From 0 on, as long as the counter does not overflow. -/
theorem nextName_eq {v : Int} (hlo : 0 ≤ v) (hhi : v < 2 ^ 31 - 1) :
    nextName (Int32.ofInt v) = some (employeeName v.toNat, Int32.ofInt (v + 1)) := by
  have hsurnames : surnames.length = 20 := by decide +kernel
  have hgiven : givenNames.length = 50 := by decide +kernel
  have hsurname := nameAt_mod surnames surnameCount (by omega)
    (by rw [hsurnames]; rfl) hlo (by omega)
  have hgivenName := nameAt_mod givenNames givenCount (by omega)
    (by rw [hgiven]; rfl) hlo (by omega)
  have hmax : Int32.ofInt v ≠ Int32.maxValue := by
    intro heq
    have hint := congrArg Int32.toInt heq
    rw [Int32.toInt_ofInt_of_le (by omega) (by omega)] at hint
    have hvalue : Int32.maxValue.toInt = 2 ^ 31 - 1 := by decide
    omega
  unfold nextName
  rw [hsurname, hgivenName, Option.bind_eq_bind, Option.bind_some, Option.bind_some,
    if_neg hmax, hsurnames, hgiven, Int32.ofInt_add]
  rfl

/-! ### Extensions and agents -/

theorem length_fourDigitText_le {ext : Int} (hlo : 1 ≤ ext) (hhi : ext ≤ 9999) :
    (fourDigitText ext).length ≤ 4 := by
  have hdigits : (natText ext.natAbs).length ≤ 4 := length_natText_le (by omega) (by omega)
  unfold fourDigitText
  rw [if_neg (by omega), List.length_leftpad]
  omega

theorem length_extensionRow_le {ext : Int} (hlo : 1 ≤ ext) (hhi : ext ≤ 9999) (k : Nat)
    (deptId : Int32) : (extensionRow ext (employeeName k) deptId).length ≤ 60 := by
  have hext := length_fourDigitText_le hlo hhi
  have hdept := length_intText_le deptId
  have hopen : (cstr "('").length = 2 := by decide +kernel
  have hquotes : (cstr "','").length = 3 := by decide +kernel
  have hquote : (cstr "',").length = 2 := by decide +kernel
  have hclose : (cstr ")").length = 1 := by decide +kernel
  simp only [extensionRow, List.length_append, hopen, hquotes, hquote, hclose,
    length_employeeName]
  omega

theorem length_agentRow_le {ext : Int} (hlo : 1 ≤ ext) (hhi : ext ≤ 9999) (deptId : Int32)
    (shift : UInt8) : (agentRow ext deptId shift).length ≤ 60 := by
  have hext := length_fourDigitText_le hlo hhi
  have hdept := length_intText_le deptId
  have hopen : (cstr "('").length = 2 := by decide +kernel
  have hquote : (cstr "',").length = 2 := by decide +kernel
  have hidle : (cstr ",1,'idle',0,'").length = 13 := by decide +kernel
  have hclose : (cstr "')").length = 2 := by decide +kernel
  simp only [agentRow, List.length_append, List.length_cons, hopen, hquote, hidle, hclose]
  omega

/-! ## Section 5: The statements of a department -/

/-- The extensions of a range. -/
def extensions (startExt endExt : Int) : List Int :=
  (List.range (endExt + 1 - startExt).toNat).map fun k : Nat => startExt + k

theorem mem_extensions {startExt endExt ext : Int} :
    ext ∈ extensions startExt endExt ↔ startExt ≤ ext ∧ ext ≤ endExt := by
  unfold extensions
  rw [List.mem_map]
  constructor
  · rintro ⟨k, hk, rfl⟩
    have hlt := List.mem_range.mp hk
    omega
  · rintro ⟨hlo, hhi⟩
    refine ⟨(ext - startExt).toNat, List.mem_range.mpr (by omega), by omega⟩

theorem pairwise_extensions (startExt endExt : Int) :
    (extensions startExt endExt).Pairwise (· < ·) := by
  unfold extensions
  rw [List.pairwise_map]
  exact List.pairwise_lt_range.imp fun hlt => by omega

theorem extensions_append {startExt midExt endExt : Int} (hlo : startExt ≤ midExt + 1)
    (hhi : midExt ≤ endExt) :
    extensions startExt midExt ++ extensions (midExt + 1) endExt =
      extensions startExt endExt := by
  have hlength : (endExt + 1 - startExt).toNat =
      (midExt + 1 - startExt).toNat + (endExt + 1 - (midExt + 1)).toNat := by omega
  unfold extensions
  rw [hlength, List.range_add, List.map_append, List.map_map]
  congr 1
  apply List.map_congr_left
  intro k _
  simp only [Function.comp_apply]
  push_cast
  omega

theorem length_extensions (startExt endExt : Int) :
    (extensions startExt endExt).length = (endExt + 1 - startExt).toNat := by
  unfold extensions
  rw [List.length_map, List.length_range]

section Rows

variable {batchStart batchEnd : Int} {n : Nat}

/-- The rows of a batch, by their numbers. -/
theorem map_extensions (hlast : batchStart + n = batchEnd + 1) (row : Int → CStr) :
    (extensions batchStart batchEnd).map row =
      (List.range n).map fun k : Nat => row (batchStart + k) := by
  have hlength : (batchEnd + 1 - batchStart).toNat = n := by omega
  unfold extensions
  rw [hlength, List.map_map]
  rfl

theorem mapIdx_extensions (hlast : batchStart + n = batchEnd + 1) (row : Nat → Int → CStr) :
    (extensions batchStart batchEnd).mapIdx row =
      (List.range n).map fun k : Nat => row k (batchStart + k) := by
  have hlength : (batchEnd + 1 - batchStart).toNat = n := by omega
  unfold extensions
  rw [hlength]
  apply List.ext_getElem?
  intro k
  rw [List.getElem?_mapIdx, List.getElem?_map, List.getElem?_map, Option.map_map]
  by_cases hk : k < n
  · rw [List.getElem?_range hk]
    rfl
  · rw [List.getElem?_eq_none (by rw [List.length_range]; omega)]
    rfl

end Rows

/-- The statement for a batch of extensions. -/
def extensionsStatement (deptId : Int32) (name : Int → CStr) (batch : List Int) : CStr :=
  insertHeader (cstr "extensions") (cstr "extension,employee_name,department_id") ++
    (cstr ",").intercalate (batch.map fun ext => extensionRow ext (name ext) deptId)

/-- The statement for a batch of agents; the shifts go by the place in the batch. -/
def agentsStatement (deptId : Int32) (batch : List Int) : CStr :=
  agentsHeader ++
    (cstr ",").intercalate (batch.mapIdx fun i ext => agentRow ext deptId (shiftLetter i)) ++
    agentsTail

/-- The name of an extension, if `startExt` gets the name for `nameIdx`. -/
def nameFrom (nameIdx startExt ext : Int) : CStr :=
  employeeName (nameIdx + (ext - startExt)).toNat

/-- What is sent and printed from `s` to `s'`.  Every call of `snprintf` is
    made inside the buffer, with the room that is left. -/
structure Emits (statements : List CStr) (s s' : Seeding) : Prop where
  sent : s'.sent = s.sent ++ statements
  calls : ∃ calls, s'.calls = s.calls ++ calls ∧ ∀ call ∈ calls, call.Inside seedSqlBufSize

theorem Emits.refl (s : Seeding) : Emits [] s s :=
  ⟨(List.append_nil _).symm, [], (List.append_nil _).symm, nofun⟩

theorem Emits.trans {statements statements' : List CStr} {s s' s'' : Seeding}
    (h : Emits statements s s') (h' : Emits statements' s' s'') :
    Emits (statements ++ statements') s s'' := by
  obtain ⟨hsent, calls, hcalls, hinside⟩ := h
  obtain ⟨hsent', calls', hcalls', hinside'⟩ := h'
  refine ⟨by rw [hsent', hsent, List.append_assoc], calls ++ calls', ?_, ?_⟩
  · rw [hcalls', hcalls, List.append_assoc]
  · exact List.forall_mem_append.mpr ⟨hinside, hinside'⟩

section Run

variable (execute : List CStr → Int32)

/-- One batch of extensions. -/
theorem seedExtensions_emits {batchStart batchEnd : Int} (hstart : 1 ≤ batchStart)
    (hle : batchStart ≤ batchEnd) (hend : batchEnd ≤ 9999)
    (hrows : batchEnd < batchStart + seedBatchRows) (deptId : Int32) {s : Seeding}
    (hname : 0 ≤ s.nameIdx.toInt)
    (hnames : s.nameIdx.toInt + (batchEnd + 1 - batchStart) < 2 ^ 31) :
    ∃ s', seedExtensions execute deptId batchStart batchEnd s = some s' ∧
      Emits [extensionsStatement deptId (nameFrom s.nameIdx.toInt batchStart)
        (extensions batchStart batchEnd)] s s' ∧
      s'.nameIdx.toInt = s.nameIdx.toInt + (batchEnd + 1 - batchStart) := by
  have hmax : seedBatchRows = 200 := rfl
  have hheader : (insertHeader (cstr "extensions")
      (cstr "extension,employee_name,department_id")).length ≤ 256 := by decide +kernel
  obtain ⟨n, hn⟩ := Int.eq_ofNat_of_zero_le (a := batchEnd + 1 - batchStart) (by omega)
  have hpos : 0 < n := by omega
  have hlast : batchStart + n = batchEnd + 1 := by omega
  let text : Nat → CStr := fun k =>
    extensionRow (batchStart + k) (employeeName (s.nameIdx.toInt + k).toNat) deptId
  have hlength : ∀ k < n, (text k).length ≤ 60 := fun k hk =>
    length_extensionRow_le (by omega) (by omega) _ deptId
  have hrow : ∀ k < n, extensionStep deptId (batchStart + k) k
      (Int32.ofInt (s.nameIdx.toInt + k)) =
        some (text k, Int32.ofInt (s.nameIdx.toInt + (k + 1 : Nat))) := by
    intro k hk
    unfold extensionStep
    rw [nextName_eq (by omega) (by omega)]
    push_cast
    rw [← Int.add_assoc]
    rfl
  obtain ⟨c, hstatement, hinside, hprinted⟩ :=
    seedStatement_eq (extensionStep deptId) (fun k => Int32.ofInt (s.nameIdx.toInt + k)) hpos
      hlast (by omega) hrow hlength hheader [] (Nat.zero_le _)
  rw [Nat.cast_zero, Int.add_zero, Int32.ofInt_toInt] at hstatement
  have htext : c.printed s.extensionsSql = extensionsStatement deptId
      (nameFrom s.nameIdx.toInt batchStart) (extensions batchStart batchEnd) := by
    simp only [hprinted, extensionsStatement, map_extensions hlast, nameFrom,
      add_sub_cancel_left, List.flatten_nil, List.append_nil, text]
  have hidx : (Int32.ofInt (s.nameIdx.toInt + n)).toInt = s.nameIdx.toInt + n :=
    Int32.toInt_ofInt_of_le (by omega) (by omega)
  unfold seedExtensions seedInsertBatch
  rw [hstatement]
  simp only [Option.bind_eq_bind, Option.bind_some, if_neg hpos.ne', htext]
  refine ⟨_, rfl, ?_⟩
  -- the count of the rows that were inserted is all that depends on the server
  split <;> exact ⟨⟨rfl, c.calls, rfl, hinside⟩, by rw [hn]; exact hidx⟩

/-- One batch of agents. -/
theorem seedAgents_emits {batchStart batchEnd : Int} (hstart : 1 ≤ batchStart)
    (hle : batchStart ≤ batchEnd) (hend : batchEnd ≤ 9999)
    (hrows : batchEnd < batchStart + seedBatchRows) (deptId : Int32) (s : Seeding) :
    ∃ s', seedAgents execute deptId batchStart batchEnd s = some s' ∧
      Emits [agentsStatement deptId (extensions batchStart batchEnd)] s s' ∧
      s'.nameIdx = s.nameIdx := by
  have hmax : seedBatchRows = 200 := rfl
  have hheader : agentsHeader.length ≤ 256 := by decide +kernel
  have htail : [agentsTail].flatten.length ≤ 256 := by decide +kernel
  obtain ⟨n, hn⟩ := Int.eq_ofNat_of_zero_le (a := batchEnd + 1 - batchStart) (by omega)
  have hpos : 0 < n := by omega
  have hlast : batchStart + n = batchEnd + 1 := by omega
  let text : Nat → CStr := fun k => agentRow (batchStart + k) deptId (shiftLetter k)
  have hlength : ∀ k < n, (text k).length ≤ 60 := fun k hk =>
    length_agentRow_le (by omega) (by omega) deptId _
  obtain ⟨c, hstatement, hinside, hprinted⟩ :=
    seedStatement_eq (agentStep deptId) (fun _ => ()) hpos hlast (by omega) (fun _ _ => rfl)
      hlength hheader [agentsTail] htail
  have htext : c.printed s.agentsSql =
      agentsStatement deptId (extensions batchStart batchEnd) := by
    rw [hprinted, agentsStatement, mapIdx_extensions hlast, List.flatten_cons,
      List.flatten_nil, List.append_nil]
  unfold seedAgents seedInsertAgentsBatch
  rw [hstatement]
  simp only [Option.bind_eq_bind, Option.bind_some, if_neg hpos.ne', htext]
  refine ⟨_, rfl, ?_⟩
  split <;> exact ⟨⟨rfl, c.calls, rfl, hinside⟩, rfl⟩

end Run

/-! ### Batches -/

/-- The batches of a range, from `batchStart` on. -/
def batches (endExt batchStart : Int) : List (List Int) :=
  if batchStart ≤ endExt then
    extensions batchStart (min (batchStart + seedBatchRows - 1) endExt) ::
      batches endExt (batchStart + seedBatchRows)
  else []
termination_by (endExt + 1 - batchStart).toNat
decreasing_by
  have hrows : (seedBatchRows : Int) = 200 := rfl
  omega

/-- No gap and no overlap. -/
theorem flatten_batches (endExt batchStart : Int) :
    (batches endExt batchStart).flatten = extensions batchStart endExt := by
  have hrows : (seedBatchRows : Int) = 200 := rfl
  fun_induction batches endExt batchStart with
  | case1 batchStart hle ih =>
    rw [List.flatten_cons, ih]
    by_cases hlast : batchStart + seedBatchRows ≤ endExt
    · have hmin : min (batchStart + seedBatchRows - 1) endExt = batchStart + seedBatchRows - 1 := by
        omega
      have hnext : batchStart + seedBatchRows = batchStart + seedBatchRows - 1 + 1 := by omega
      rw [hmin]
      nth_rewrite 2 [hnext]
      exact extensions_append (by omega) (by omega)
    -- the last batch is clipped, or just full
    · have hmin : min (batchStart + seedBatchRows - 1) endExt = endExt := by omega
      have hnil : extensions (batchStart + seedBatchRows) endExt = [] := by
        apply List.eq_nil_of_length_eq_zero
        rw [length_extensions]
        omega
      rw [hmin, hnil, List.append_nil]
  | case2 batchStart hlt =>
    apply Eq.symm
    apply List.eq_nil_of_length_eq_zero
    rw [length_extensions]
    omega

theorem length_of_mem_batches {endExt batchStart : Int} {batch : List Int}
    (h : batch ∈ batches endExt batchStart) : 0 < batch.length ∧ batch.length ≤ seedBatchRows := by
  have hrows : (seedBatchRows : Int) = 200 := rfl
  fun_induction batches endExt batchStart with
  | case1 batchStart hle ih =>
    rcases List.mem_cons.mp h with rfl | hrest
    · rw [length_extensions]
      omega
    · exact ih hrest
  | case2 => exact absurd h List.not_mem_nil

/-- The loop over the batches, for a body that sends one statement for each
    batch that it is ready for. -/
theorem seedBatches_emits (insert : Int → Int → Seeding → Option Seeding)
    (statement : List Int → CStr) (Ready : Int → Seeding → Prop) {startExt : Int} (endExt : Int)
    (hinsert : ∀ a b s, startExt ≤ a → a ≤ b → b ≤ endExt → b < a + seedBatchRows →
      Ready a s → ∃ s', insert a b s = some s' ∧ Emits [statement (extensions a b)] s s' ∧
        Ready (b + 1) s')
    {batchStart : Int} (hstart : startExt ≤ batchStart) {s : Seeding}
    (hready : Ready (min batchStart (endExt + 1)) s) :
    ∃ s', seedBatches insert endExt batchStart s = some s' ∧
      Emits ((batches endExt batchStart).map statement) s s' ∧ Ready (endExt + 1) s' := by
  have hrows : (seedBatchRows : Int) = 200 := rfl
  fun_induction batches endExt batchStart generalizing s with
  | case1 batchStart hle ih =>
    have hmin : min batchStart (endExt + 1) = batchStart := by omega
    rw [hmin] at hready
    obtain ⟨s₁, hbody, hemits, hready₁⟩ :=
      hinsert batchStart (min (batchStart + seedBatchRows - 1) endExt) s hstart (by omega)
        (by omega) (by omega) hready
    -- behind a last batch that is clipped, `batchStart` jumps over `endExt + 1`
    have hnext : min (batchStart + seedBatchRows) (endExt + 1) =
        min (batchStart + seedBatchRows - 1) endExt + 1 := by omega
    obtain ⟨s', hrest, hemits', hready'⟩ := ih (by omega) (by rw [hnext]; exact hready₁)
    have hclip : (if batchStart + seedBatchRows - 1 > endExt then endExt
        else batchStart + seedBatchRows - 1) = min (batchStart + seedBatchRows - 1) endExt := by
      split <;> omega
    refine ⟨s', ?_, hemits.trans hemits', hready'⟩
    unfold seedBatches
    simp only [if_pos hle, hclip, hbody, hrest]
  | case2 batchStart hlt =>
    have hmin : min batchStart (endExt + 1) = endExt + 1 := by omega
    rw [hmin] at hready
    refine ⟨s, ?_, Emits.refl s, hready⟩
    unfold seedBatches
    rw [if_neg hlt]

/-! ### Departments -/

/-- The statements for a department whose first employee gets the name for
    `nameIdx`. -/
def deptStatements (startExt endExt : Int) (deptId : Int32) (externalAccess : Bool)
    (nameIdx : Int) : List CStr :=
  (batches endExt startExt).map (extensionsStatement deptId (nameFrom nameIdx startExt)) ++
    if externalAccess then (batches endExt startExt).map (agentsStatement deptId) else []

section Run

variable (execute : List CStr → Int32)

theorem seedDept_emits {startExt endExt : Int} (hstart : 1 ≤ startExt)
    (hle : startExt ≤ endExt) (hend : endExt ≤ 9999) (deptId : Int32) (externalAccess : Bool)
    {s : Seeding} (hname : 0 ≤ s.nameIdx.toInt)
    (hnames : s.nameIdx.toInt + (endExt + 1 - startExt) < 2 ^ 31) :
    ∃ s', seedDept execute startExt endExt deptId externalAccess s = some s' ∧
      Emits (deptStatements startExt endExt deptId externalAccess s.nameIdx.toInt) s s' ∧
      s'.nameIdx.toInt = s.nameIdx.toInt + (endExt + 1 - startExt) := by
  have hmin : min startExt (endExt + 1) = startExt := by omega
  obtain ⟨s₁, hrun₁, hemits₁, hidx₁⟩ := seedBatches_emits
    (seedExtensions execute deptId)
    (extensionsStatement deptId (nameFrom s.nameIdx.toInt startExt))
    (fun ext t => t.nameIdx.toInt = s.nameIdx.toInt + (ext - startExt)) endExt (by
      intro a b t ha hab hb hrows hready
      obtain ⟨t', hrun, hemits, hidx⟩ := seedExtensions_emits execute (by omega) hab (by omega)
        hrows deptId (s := t) (by omega) (by omega)
      have hfrom : nameFrom t.nameIdx.toInt a = nameFrom s.nameIdx.toInt startExt := by
        funext ext
        unfold nameFrom
        congr 2
        omega
      rw [hfrom] at hemits
      exact ⟨t', hrun, hemits, by omega⟩)
    (Int.le_refl startExt) (s := s) (by omega)
  unfold seedDept deptStatements
  rw [hrun₁, Option.bind_eq_bind, Option.bind_some]
  cases externalAccess with
  | false => exact ⟨s₁, rfl, by simpa using hemits₁, by omega⟩
  -- the agents use no names, so the counter stays
  | true =>
    obtain ⟨s₂, hrun₂, hemits₂, hidx₂⟩ := seedBatches_emits (seedAgents execute deptId)
      (agentsStatement deptId) (fun _ t => t.nameIdx = s₁.nameIdx) endExt (by
        intro a b t ha hab hb hrows hready
        obtain ⟨t', hrun, hemits, hidx⟩ :=
          seedAgents_emits execute (by omega) hab (by omega) hrows deptId t
        exact ⟨t', hrun, hemits, hidx.trans hready⟩)
      (Int.le_refl startExt) (s := s₁) rfl
    refine ⟨s₂, hrun₂, hemits₁.trans hemits₂, ?_⟩
    rw [hidx₂]
    omega

/-- What is sent for a range: every extension has one row among those of the
    INSERTs into `extensions`, and one among those of the INSERTs into `agents`
    if the department takes calls from outside. -/
def SeedsRange (startExt endExt : Int) (deptId : Int32) (externalAccess : Bool)
    (s s' : Seeding) : Prop :=
  ∃ chunks : List (List Int),
    (∀ ext, ext ∈ chunks.flatten ↔ startExt ≤ ext ∧ ext ≤ endExt) ∧
    chunks.flatten.Pairwise (· < ·) ∧
    (∀ chunk ∈ chunks, 0 < chunk.length ∧ chunk.length ≤ seedBatchRows) ∧
    Emits (chunks.map (extensionsStatement deptId (nameFrom s.nameIdx.toInt startExt)) ++
      if externalAccess then chunks.map (agentsStatement deptId) else []) s s'

/-- **The loops over a department** send a row for each extension of the range,
    in increasing order and in statements of at most `SEED_BATCH_ROWS` rows,
    and print them inside the buffer, for every counter of names that neither
    is negative nor overflows. -/
theorem seedDept_seedsRange {startExt endExt : Int} (hstart : 1 ≤ startExt)
    (hle : startExt ≤ endExt) (hend : endExt ≤ 9999) (deptId : Int32) (externalAccess : Bool)
    {s : Seeding} (hname : 0 ≤ s.nameIdx.toInt)
    (hnames : s.nameIdx.toInt + (endExt - startExt + 1) ≤ 2 ^ 31 - 1) :
    ∃ s', seedDept execute startExt endExt deptId externalAccess s = some s' ∧
      SeedsRange startExt endExt deptId externalAccess s s' := by
  obtain ⟨s', hrun, hemits, -⟩ :=
    seedDept_emits execute hstart hle hend deptId externalAccess hname (by omega)
  refine ⟨s', hrun, batches endExt startExt, ?_, ?_, fun chunk => length_of_mem_batches, hemits⟩
  · intro ext
    rw [flatten_batches]
    exact mem_extensions
  · rw [flatten_batches]
    exact pairwise_extensions startExt endExt

end Run

/-- Before the first statement. -/
def Seeding.start (nameIdx : Int32) : Seeding where
  nameIdx := nameIdx
  totalExt := 0
  totalAgents := 0
  extensionsSql := fun _ => 0
  agentsSql := fun _ => 0
  calls := []
  sent := []

/-- Sales: two batches, for extensions and for agents. -/
theorem seedDept_seedsRange_sales :
    ∃ s', seedDept (fun _ => 200) 2001 2400 5 true (Seeding.start 180) = some s' ∧
      SeedsRange 2001 2400 5 true (Seeding.start 180) s' :=
  seedDept_seedsRange (fun _ => 200) (by decide) (by decide) (by decide) 5 true
    (by decide) (by decide)

/-- With a negative counter the surname is read in front of the table, and the
    greatest one overflows. -/
theorem name_index_unread :
    (¬ ∀ (execute : List CStr → Int32) (startExt endExt : Int) (deptId : Int32)
      (externalAccess : Bool) (s : Seeding), 1 ≤ startExt → startExt ≤ endExt → endExt ≤ 9999 →
      ∃ s', seedDept execute startExt endExt deptId externalAccess s = some s' ∧
        SeedsRange startExt endExt deptId externalAccess s s') ∧
    seedDept (fun _ => 1) 1001 1002 1 false (Seeding.start (-1)) = none ∧
    seedDept (fun _ => 1) 1001 1002 1 false (Seeding.start Int32.maxValue) = none := by
  have hnegative : seedDept (fun _ => 1) 1001 1002 1 false (Seeding.start (-1)) = none := by
    rw [← Option.isNone_iff_eq_none]
    decide +kernel
  have hgreatest : seedDept (fun _ => 1) 1001 1002 1 false (Seeding.start Int32.maxValue) =
      none := by
    rw [← Option.isNone_iff_eq_none]
    decide +kernel
  refine ⟨?_, hnegative, hgreatest⟩
  intro h
  obtain ⟨s', hrun, -⟩ := h (fun _ => 1) 1001 1002 1 false (Seeding.start (-1)) (by decide)
    (by decide) (by decide)
  rw [hnegative] at hrun
  cases hrun

/-! ## Section 6: All departments -/

/-- `atoi` of the ends of the range. -/
def DeptSeed.startExt (ds : DeptSeed) : Int := (atoi ds.rangeStart).toInt

def DeptSeed.endExt (ds : DeptSeed) : Int := (atoi ds.rangeEnd).toInt

/-- A range of numbers of at most four digits. -/
def DeptSeed.Valid (ds : DeptSeed) : Prop :=
  1 ≤ ds.startExt ∧ ds.startExt ≤ ds.endExt ∧ ds.endExt ≤ 9999

instance (ds : DeptSeed) : Decidable ds.Valid := inferInstanceAs (Decidable (_ ∧ _))

/-- The number of employees. -/
def employees : List DeptSeed → Int
  | [] => 0
  | ds :: rest => (ds.endExt + 1 - ds.startExt) + employees rest

/-- The statements for the departments, from the name for `nameIdx` on. -/
def deptsStatements : List DeptSeed → Int → List CStr
  | [], _ => []
  | ds :: rest, nameIdx =>
    deptStatements ds.startExt ds.endExt ds.deptId ds.externalAccess nameIdx ++
      deptsStatements rest (nameIdx + (ds.endExt + 1 - ds.startExt))

theorem employees_nonneg {depts : List DeptSeed} (hvalid : ∀ ds ∈ depts, ds.Valid) :
    0 ≤ employees depts := by
  induction depts with
  | nil => exact Int.le_refl 0
  | cons ds rest ih =>
    obtain ⟨⟨-, hle, -⟩, hrest⟩ := List.forall_mem_cons.mp hvalid
    have hnonneg := ih hrest
    rw [employees]
    omega

/-- The loop over any departments whose employees can be counted. -/
theorem seedDepts_emits (execute : List CStr → Int32) {depts : List DeptSeed}
    (hvalid : ∀ ds ∈ depts, ds.Valid) {s : Seeding} (hname : 0 ≤ s.nameIdx.toInt)
    (hnames : s.nameIdx.toInt + employees depts < 2 ^ 31) :
    ∃ s', seedDepts execute depts s = some s' ∧
      Emits (deptsStatements depts s.nameIdx.toInt) s s' := by
  induction depts generalizing s with
  | nil => exact ⟨s, rfl, Emits.refl s⟩
  | cons ds rest ih =>
    obtain ⟨⟨hstart, hle, hend⟩, hrest⟩ := List.forall_mem_cons.mp hvalid
    have hnonneg := employees_nonneg hrest
    rw [employees] at hnames
    obtain ⟨s₁, hrun₁, hemits₁, hidx₁⟩ := seedDept_emits execute hstart hle hend ds.deptId
      ds.externalAccess hname (by omega)
    obtain ⟨s', hrun, hemits⟩ := ih hrest (s := s₁) (by omega) (by omega)
    rw [hidx₁] at hemits
    refine ⟨s', ?_, hemits₁.trans hemits⟩
    unfold seedDepts
    rw [← DeptSeed.startExt, ← DeptSeed.endExt, hrun₁]
    exact hrun

theorem valid_deptSeeds : ∀ ds ∈ deptSeeds, ds.Valid := by decide +kernel

/-- No extension belongs to two departments. -/
theorem pairwise_deptSeeds :
    (deptSeeds.flatMap fun ds => extensions ds.startExt ds.endExt).Pairwise (· < ·) := by
  have hranges : deptSeeds.Pairwise fun ds ds' => ds.endExt < ds'.startExt := by decide +kernel
  rw [List.pairwise_flatMap]
  refine ⟨fun ds _ => pairwise_extensions _ _, hranges.imp ?_⟩
  intro ds ds' hlt ext hext ext' hext'
  have hhi := (mem_extensions.mp hext).2
  have hlo := (mem_extensions.mp hext').1
  omega

/-- **`db_sync_seed_demo_data`**, while there are at most a hundred agents. -/
theorem seedDemoData_emits (execute : List CStr → Int32) {sync : SyncFields}
    (hdb : sync.dbEnabled = true) (hpool : sync.mysqlPool = true) {existing : Int32}
    (hexisting : ¬ existing > 100) (s : Seeding) :
    ∃ s', dbSyncSeedDemoData execute (some sync) existing s = some (s'.totalExt, s') ∧
      Emits (deptsStatements deptSeeds 0) s s' := by
  have hcount : employees deptSeeds = 1210 := by decide +kernel
  obtain ⟨s', hrun, hemits⟩ := seedDepts_emits execute valid_deptSeeds
    (s := { s with nameIdx := 0, totalExt := 0, totalAgents := 0 }) (Int.le_refl 0) (by
      show (0 : Int32).toInt + employees deptSeeds < 2 ^ 31
      rw [hcount]
      decide)
  refine ⟨s', ?_, hemits.sent, hemits.calls⟩
  unfold dbSyncSeedDemoData
  simp only [hdb, hpool, if_neg hexisting, hrun]
  rfl

end DbSync
