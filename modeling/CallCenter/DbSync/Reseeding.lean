import CallCenter.DbMysql.Agents
import CallCenter.DbSync.Seed
import CallCenter.Framework.KeyedTable
import CallCenter.Framework.SqlInsert
import CallCenter.Framework.Transition

/-! # Demo Data over Restarts

    Every start of the program calls `db_sync_seed_demo_data`, which counts
    the agents and, while there are at most a hundred, sends all its INSERTs.
    The server reads them and fills the two tables, in which the numbers are
    unique; some of the statements may not reach it.

    * `Holds.execute` and `Holds.run`: the tables hold just the rows of the
      statements that some start has executed, however often.
    * `seeding_complete_iff`: when every number of every department is there.
    * `interrupted_iff`: with more than a hundred agents that stays as it is,
      unless a count fails.
    * `start_resets`: which agents a start sets to idle. -/

namespace DbSync.Reseeding

open CFormat SqlText KeyedTable DbMysql Transition

/-! ## Section 1: The two tables -/

/-- The columns of `extensions` that the INSERT names. -/
structure ExtensionRow where
  extension : CStr
  employeeName : CStr
  departmentId : Int32
  deriving DecidableEq, Repr

/-- What an UPDATE never changes of a row of `agents`. -/
structure AgentPost where
  extension : CStr
  departmentId : Int32
  shift : CStr
  deriving DecidableEq, Repr

/-- A row of `agents`. -/
structure SeededAgent where
  agent : AgentRow
  departmentId : Int32
  shift : CStr
  deriving DecidableEq, Repr

def SeededAgent.post (r : SeededAgent) : AgentPost := ⟨r.agent.extension, r.departmentId, r.shift⟩

/-- `ON DUPLICATE KEY UPDATE is_online=1, status='idle', concurrent_calls=0` -/
def SeededAgent.setIdle (r : SeededAgent) : SeededAgent :=
  { r with agent := { r.agent with
      isOnline := some 1
      status := some (cstr "idle")
      concurrentCalls := some 0 } }

@[simp] theorem SeededAgent.post_setIdle (r : SeededAgent) : r.setIdle.post = r.post := rfl

/-- An agent as it is inserted. -/
def AgentPost.idle (p : AgentPost) : SeededAgent :=
  ⟨⟨p.extension, some 1, some (cstr "idle"), some 0⟩, p.departmentId, p.shift⟩

structure Tables where
  extensions : List ExtensionRow
  agents : List SeededAgent

/-! ## Section 2: The server -/

/-- `"INSERT INTO extensions (…) VALUES "` -/
def extensionsHeader : CStr :=
  insertHeader (cstr "extensions") (cstr "extension,employee_name,department_id")

/-- The clause of the INSERTs into `agents`. -/
def agentsClause : List SqlPart :=
  [.text (cstr " ON DUPLICATE KEY UPDATE is_online=1, status="), .literal (cstr "idle"),
    .text (cstr ", concurrent_calls=0, last_active=NOW()")]

def ExtensionRow.ofValues : List CStr → Option ExtensionRow
  | [extension, name, dept] => some ⟨extension, name, atoi dept⟩
  | _ => none

def SeededAgent.ofValues : List CStr → Option SeededAgent
  | [extension, dept, isOnline, status, calls, shift] =>
    some ⟨⟨extension, some (atoi isOnline), some status, some (atoi calls)⟩, atoi dept, shift⟩
  | _ => none

/-- The rows of an INSERT into `extensions`. -/
def insertedExtensions (text : CStr) : Option (List ExtensionRow) :=
  (insertedRows extensionsHeader [] text).bind fun rows => rows.mapM ExtensionRow.ofValues

/-- The rows of an INSERT into `agents` with the clause. -/
def insertedAgents (text : CStr) : Option (List SeededAgent) :=
  (insertedRows agentsHeader (tokens agentsClause) text).bind fun rows =>
    rows.mapM SeededAgent.ofValues

/-- The server executes a statement of the seeding.  An INSERT into
    `extensions` with a number that is there fails as a whole. -/
def Tables.execute (t : Tables) (text : CStr) : Tables :=
  match insertedExtensions text, insertedAgents text with
  | some rows, _ =>
    { t with extensions :=
        (insertAll ExtensionRow.extension t.extensions rows).getD t.extensions }
  | none, some rows =>
    { t with agents :=
        upsertAll (fun r => r.agent.extension) SeededAgent.setIdle t.agents rows }
  | none, none => t

/-- `db_mysql_load_all_agents_for_cache`; `result` is the first column of the
    row that the query gives, if it gives one. -/
def dbMysqlLoadAllAgentsForCache (result : Option (Option CStr)) : Int32 :=
  match result with
  | none => -1
  | some none => 0
  | some (some text) => atoi text

/-! ## Section 3: Starts of the program -/

/-- A start: what the program has of the database, whether its count is
    answered, what it is told about its statements, and which of them the
    server executes. -/
structure Startup where
  sync : Option SyncFields
  counted : Bool
  execute : List CStr → Int32
  executed : Nat → Bool

/-- The tables, and the statements that have been executed. -/
structure Deployment where
  tables : Tables
  done : List CStr

def Deployment.start : Deployment := ⟨⟨[], []⟩, []⟩

def Deployment.execute (s : Deployment) (text : CStr) : Deployment :=
  ⟨s.tables.execute text, s.done ++ [text]⟩

/-- The result of `SELECT COUNT(*) FROM agents`. -/
def Tables.countResult (t : Tables) (counted : Bool) : Option (Option CStr) :=
  if counted then some (some (natText t.agents.length)) else none

/-- The statements that the server executes. -/
def Startup.reached (st : Startup) (sent : List CStr) : List CStr :=
  (sent.zipIdx.filter fun p => st.executed p.2).map Prod.fst

inductive DeployLabel where
  | startup (st : Startup)
  /-- The server executes `db_mysql_update_agent_status`. -/
  | updateStatus (extension status : CStr) (concurrentCalls : Int32)

def deployStep (s : Deployment) : DeployLabel → Option Deployment
  | .startup st =>
    (dbSyncSeedDemoData st.execute st.sync
      (dbMysqlLoadAllAgentsForCache (s.tables.countResult st.counted)) (Seeding.start 0)).map
        fun (_, seeding) => (st.reached seeding.sent).foldl Deployment.execute s
  | .updateStatus extension status concurrentCalls =>
    some { s with tables.agents := s.tables.agents.map fun r =>
      { r with agent := setRowStatus extension status concurrentCalls r.agent } }

/-! ## Section 4: What is sent, by its rows -/

def ExtensionRow.values (row : ExtensionRow) : List SqlValue :=
  [.string row.extension, .string row.employeeName, .int row.departmentId]

def AgentPost.values (p : AgentPost) : List SqlValue :=
  [.string p.extension, .int p.departmentId, .int 1, .string (cstr "idle"), .int 0,
    .string p.shift]

def extensionsText (rows : List ExtensionRow) : CStr :=
  render (.text extensionsHeader :: (valuesParts (rows.map ExtensionRow.values) ++ []))

def agentsText (posts : List AgentPost) : CStr :=
  render (.text agentsHeader :: (valuesParts (posts.map AgentPost.values) ++ agentsClause))

/-- The rows of a batch. -/
def extensionRows (deptId : Int32) (name : Int → CStr) (batch : List Int) : List ExtensionRow :=
  batch.map fun ext => ⟨fourDigitText ext, name ext, deptId⟩

def agentPosts (deptId : Int32) (batch : List Int) : List AgentPost :=
  batch.mapIdx fun i ext => ⟨fourDigitText ext, deptId, [shiftLetter i]⟩

theorem render_extensionRow (ext : Int) (name : CStr) (deptId : Int32) :
    render (rowParts (ExtensionRow.values ⟨fourDigitText ext, name, deptId⟩)) =
      extensionRow ext name deptId := by
  have hopen : cstr "('" = [40, 39] := rfl
  have hquotes : cstr "','" = [39, 44, 39] := rfl
  have hquote : cstr "'," = [39, 44] := rfl
  have hclose : cstr ")" = [41] := rfl
  simp [extensionRow, ExtensionRow.values, rowParts, valueParts, SqlValue.part, SqlPart.render,
    hopen, hquotes, hquote, hclose]

theorem render_agentRow (ext : Int) (deptId : Int32) (shift : UInt8) :
    render (rowParts (AgentPost.values ⟨fourDigitText ext, deptId, [shift]⟩)) =
      agentRow ext deptId shift := by
  have hopen : cstr "('" = [40, 39] := rfl
  have hquote : cstr "'," = [39, 44] := rfl
  have hidle : cstr ",1,'idle',0,'" =
      44 :: (intText 1 ++ [44, 39]) ++ cstr "idle" ++ [39, 44] ++ intText 0 ++ [44, 39] := by
    decide
  have hclose : cstr "')" = [39, 41] := rfl
  simp [agentRow, AgentPost.values, rowParts, valueParts, SqlValue.part, SqlPart.render, hopen,
    hquote, hidle, hclose]

theorem extensionsStatement_eq (deptId : Int32) (name : Int → CStr) (batch : List Int) :
    extensionsStatement deptId name batch = extensionsText (extensionRows deptId name batch) := by
  have hcomma : cstr "," = [44] := rfl
  unfold extensionsStatement extensionsText extensionRows
  rw [render_cons, List.append_nil, render_valuesParts, List.map_map, List.map_map, hcomma]
  simp only [Function.comp_def, render_extensionRow]
  rfl

theorem agentsStatement_eq (deptId : Int32) (batch : List Int) :
    agentsStatement deptId batch = agentsText (agentPosts deptId batch) := by
  have hcomma : cstr "," = [44] := rfl
  have htail : agentsTail = render agentsClause := by decide
  unfold agentsStatement agentsText agentPosts
  rw [render_cons, render_append, render_valuesParts, List.map_map, hcomma, htail]
  simp only [List.mapIdx_eq_zipIdx_map, List.map_map, Function.comp_def, render_agentRow]
  rw [← List.append_assoc]
  rfl

/-! ### The server reads them -/

theorem isDigit_leftpad {s : CStr} (hs : ∀ b ∈ s, isDigit b = true) (n : Nat) :
    ∀ b ∈ s.leftpad n 48, isDigit b = true := by
  intro b hb
  unfold List.leftpad at hb
  rcases List.mem_append.mp hb with hb | hb
  · obtain rfl := List.eq_of_mem_replicate hb
    rfl
  · exact hs b hb

theorem plain_fourDigitText {ext : Int} (hext : 0 ≤ ext) : plain (fourDigitText ext) = true := by
  have hdigits : ∀ b ∈ fourDigitText ext, isDigit b = true := by
    unfold fourDigitText
    rw [if_neg (by omega)]
    exact isDigit_leftpad (fun b hb => isDigit_of_mem_natText hb) 4
  exact plain_of_notMem (fun h => absurd (hdigits 39 h) (by decide))
    fun h => absurd (hdigits 92 h) (by decide)

theorem plain_employeeName (k : Nat) : plain (employeeName k) = true := by
  have hsurnames : ∀ name ∈ surnames, plain name = true := by decide
  have hgiven : ∀ name ∈ givenNames, plain name = true := by decide
  have hgetD {names : List CStr} (hnames : ∀ name ∈ names, plain name = true) (i : Nat) :
      plain (names.getD i []) = true := by
    rw [List.getD_eq_getElem?_getD]
    cases hi : names[i]? with
    | none => rfl
    | some name => exact hnames name (List.mem_of_getElem? hi)
  unfold employeeName
  rw [plain_append (hgetD hsurnames _)]
  exact hgetD hgiven _

theorem plain_shiftLetter (count : Nat) : plain [shiftLetter count] = true := by
  have hletters : ∀ k < 3, plain [UInt8.ofNat (65 + k)] = true := by decide
  exact hletters (count % 3) (Nat.mod_lt _ (by decide))

/-- A row of a department. -/
def ExtensionRow.Plain (row : ExtensionRow) : Prop :=
  plain row.extension = true ∧ plain row.employeeName = true

def AgentPost.Plain (p : AgentPost) : Prop := plain p.extension = true ∧ plain p.shift = true

theorem insertedExtensions_text {rows : List ExtensionRow} (hrows : ∀ row ∈ rows, row.Plain) :
    insertedExtensions (extensionsText rows) = some rows := by
  have hheader : 39 ∉ extensionsHeader := by decide
  have hnonempty : ∀ values ∈ rows.map ExtensionRow.values, values ≠ [] := by
    intro values hvalues
    obtain ⟨row, -, rfl⟩ := List.mem_map.mp hvalues
    exact List.cons_ne_nil _ _
  have hstrings : ∀ values ∈ rows.map ExtensionRow.values,
      ∀ s, SqlValue.string s ∈ values → plain s = true := by
    intro values hvalues s hs
    obtain ⟨row, hrow, rfl⟩ := List.mem_map.mp hvalues
    obtain ⟨hextension, hname⟩ := hrows row hrow
    simp only [ExtensionRow.values, List.mem_cons, SqlValue.string.injEq, reduceCtorEq,
      List.not_mem_nil, or_false] at hs
    rcases hs with rfl | rfl
    · exact hextension
    · exact hname
  have hnil : WellFormed [] := trivial
  have hread := insertedRows_render hheader hnil nofun rfl hnonempty hstrings
  have hvalues : (ExtensionRow.ofValues ∘ List.map SqlValue.text) ∘ ExtensionRow.values =
      fun row => pure (id row) := by
    funext row
    simp [ExtensionRow.values, ExtensionRow.ofValues, SqlValue.text, atoi_intText]
  unfold insertedExtensions
  rw [extensionsText, ← tokens_nil, hread, Option.bind_some, List.mapM_map, List.mapM_map, hvalues,
    List.mapM_pure, List.map_id]
  rfl

theorem insertedAgents_text {posts : List AgentPost} (hposts : ∀ p ∈ posts, p.Plain) :
    insertedAgents (agentsText posts) = some (posts.map AgentPost.idle) := by
  have hheader : 39 ∉ agentsHeader := by decide
  have hidle : plain (cstr "idle") = true := rfl
  have hclause : WellFormed agentsClause := by
    refine ⟨by decide, ?_, by decide, trivial⟩
    decide
  have hclausePlain : ∀ s ∈ literals agentsClause, plain s = true := by
    intro s hs
    obtain rfl := List.mem_singleton.mp hs
    exact hidle
  have hstop : readRows none (tokens agentsClause) = [] := rfl
  have hnonempty : ∀ values ∈ posts.map AgentPost.values, values ≠ [] := by
    intro values hvalues
    obtain ⟨p, -, rfl⟩ := List.mem_map.mp hvalues
    exact List.cons_ne_nil _ _
  have hstrings : ∀ values ∈ posts.map AgentPost.values,
      ∀ s, SqlValue.string s ∈ values → plain s = true := by
    intro values hvalues s hs
    obtain ⟨p, hp, rfl⟩ := List.mem_map.mp hvalues
    obtain ⟨hextension, hshift⟩ := hposts p hp
    simp only [AgentPost.values, List.mem_cons, SqlValue.string.injEq, reduceCtorEq,
      List.not_mem_nil, or_false, false_or] at hs
    rcases hs with rfl | rfl | rfl
    · exact hextension
    · exact hidle
    · exact hshift
  have hread := insertedRows_render hheader hclause hclausePlain hstop hnonempty hstrings
  have hvalues : (SeededAgent.ofValues ∘ List.map SqlValue.text) ∘ AgentPost.values =
      fun p => pure p.idle := by
    funext p
    simp [AgentPost.values, SeededAgent.ofValues, SqlValue.text, atoi_intText, AgentPost.idle]
  unfold insertedAgents
  rw [agentsText, hread, Option.bind_some, List.mapM_map, List.mapM_map, hvalues, List.mapM_pure]
  rfl

theorem insertedAgents_of_extensions {text : CStr} {rows : List ExtensionRow}
    (h : insertedExtensions text = some rows) : insertedAgents text = none := by
  obtain ⟨values, hvalues, -⟩ := Option.bind_eq_some_iff.mp h
  unfold insertedAgents
  rw [insertedRows_other (by decide) (by decide) _ _ hvalues]
  rfl

/-! ## Section 5: The batches of all departments -/

/-- The rows for `extensions`, from the name for `nameIdx` on. -/
def extensionBatches : List DeptSeed → Int → List (List ExtensionRow)
  | [], _ => []
  | ds :: rest, nameIdx =>
    (batches ds.endExt ds.startExt).map
        (extensionRows ds.deptId (nameFrom nameIdx ds.startExt)) ++
      extensionBatches rest (nameIdx + (ds.endExt + 1 - ds.startExt))

/-- The rows for `agents`. -/
def agentBatches : List DeptSeed → List (List AgentPost)
  | [] => []
  | ds :: rest =>
    (if ds.externalAccess then (batches ds.endExt ds.startExt).map (agentPosts ds.deptId)
      else []) ++ agentBatches rest

/-- The numbers of all departments. -/
def numbers (depts : List DeptSeed) : List CStr :=
  (depts.flatMap fun ds => extensions ds.startExt ds.endExt).map fourDigitText

theorem mem_deptsStatements {depts : List DeptSeed} {nameIdx : Int} {text : CStr} :
    text ∈ deptsStatements depts nameIdx ↔
      (∃ rows ∈ extensionBatches depts nameIdx, extensionsText rows = text) ∨
      ∃ posts ∈ agentBatches depts, agentsText posts = text := by
  induction depts generalizing nameIdx with
  | nil => simp [deptsStatements, extensionBatches, agentBatches]
  | cons ds rest ih =>
    have hextensions (name : Int → CStr) : extensionsStatement ds.deptId name =
        extensionsText ∘ extensionRows ds.deptId name :=
      funext fun batch => extensionsStatement_eq ds.deptId name batch
    have hagents : agentsStatement ds.deptId = agentsText ∘ agentPosts ds.deptId :=
      funext fun batch => agentsStatement_eq ds.deptId batch
    have hthese : text ∈ deptStatements ds.startExt ds.endExt ds.deptId ds.externalAccess nameIdx ↔
        (∃ rows ∈ (batches ds.endExt ds.startExt).map
            (extensionRows ds.deptId (nameFrom nameIdx ds.startExt)), extensionsText rows = text) ∨
          ∃ posts ∈ (if ds.externalAccess then
            (batches ds.endExt ds.startExt).map (agentPosts ds.deptId) else []),
            agentsText posts = text := by
      rw [deptStatements, hextensions, hagents, ← List.map_map, List.mem_append, List.mem_map]
      refine or_congr Iff.rfl ?_
      split
      · rw [← List.map_map, List.mem_map]
      · simp
    rw [deptsStatements, List.mem_append, hthese, ih]
    simp only [extensionBatches, agentBatches, List.mem_append, or_and_right, exists_or]
    exact or_or_or_comm

theorem map_extension_extensionRows (deptId : Int32) (name : Int → CStr) (batch : List Int) :
    (extensionRows deptId name batch).map ExtensionRow.extension = batch.map fourDigitText := by
  unfold extensionRows
  rw [List.map_map]
  rfl

theorem map_extension_agentPosts (deptId : Int32) (batch : List Int) :
    (agentPosts deptId batch).map AgentPost.extension = batch.map fourDigitText := by
  apply List.ext_getElem?
  intro i
  simp [agentPosts, Option.map_map, Function.comp_def]

theorem flatten_map_map (batches : List (List Int)) :
    (batches.map fun batch => batch.map fourDigitText).flatten =
      batches.flatten.map fourDigitText := List.map_flatten.symm

theorem numbers_cons (ds : DeptSeed) (rest : List DeptSeed) :
    numbers (ds :: rest) =
      (extensions ds.startExt ds.endExt).map fourDigitText ++ numbers rest := by
  unfold numbers
  rw [List.flatMap_cons, List.map_append]

theorem extensionBatches_numbers (depts : List DeptSeed) (nameIdx : Int) :
    (extensionBatches depts nameIdx).flatten.map ExtensionRow.extension = numbers depts := by
  induction depts generalizing nameIdx with
  | nil => rfl
  | cons ds rest ih =>
    rw [extensionBatches, List.flatten_append, List.map_append, ih, numbers_cons, List.map_flatten,
      List.map_map, ← flatten_batches, ← flatten_map_map]
    congr 3
    exact funext fun batch => map_extension_extensionRows ds.deptId _ batch

theorem agentBatches_numbers (depts : List DeptSeed) :
    ((agentBatches depts).flatten.map AgentPost.extension).Sublist (numbers depts) := by
  induction depts with
  | nil => exact List.Sublist.refl _
  | cons ds rest ih =>
    rw [agentBatches, List.flatten_append, List.map_append, numbers_cons]
    refine List.Sublist.append ?_ ih
    split
    · rw [List.map_flatten, List.map_map, ← flatten_batches, ← flatten_map_map]
      have hnumbers : List.map AgentPost.extension ∘ agentPosts ds.deptId =
          fun batch => batch.map fourDigitText :=
        funext fun batch => map_extension_agentPosts ds.deptId batch
      rw [hnumbers]
    · exact List.nil_sublist _

theorem digitsValue_replicate (n : Nat) (s : CStr) :
    digitsValue (List.replicate n 48 ++ s) = digitsValue s := by
  induction n with
  | zero => rfl
  | succ n ih =>
    rw [← ih]
    rfl

theorem fourDigitText_inj {ext ext' : Int} (hext : 0 ≤ ext) (hext' : 0 ≤ ext')
    (h : fourDigitText ext = fourDigitText ext') : ext = ext' := by
  have hvalue {ext : Int} (hext : 0 ≤ ext) : digitsValue (fourDigitText ext) = ext.natAbs := by
    unfold fourDigitText List.leftpad
    rw [if_neg (by omega), digitsValue_replicate, digitsValue_natText]
  have heq := congrArg digitsValue h
  rw [hvalue hext, hvalue hext'] at heq
  omega

/-- No number twice. -/
theorem nodup_numbers : (numbers deptSeeds).Nodup := by
  have hnodup : (deptSeeds.flatMap fun ds => extensions ds.startExt ds.endExt).Nodup :=
    pairwise_deptSeeds.imp Int.ne_of_lt
  refine hnodup.map_on fun ext hext ext' hext' heq => ?_
  have hpos {ext : Int} (h : ext ∈ deptSeeds.flatMap fun ds => extensions ds.startExt ds.endExt) :
      0 ≤ ext := by
    obtain ⟨ds, hds, hmem⟩ := List.mem_flatMap.mp h
    have hstart := (valid_deptSeeds ds hds).1
    have hle := (mem_extensions.mp hmem).1
    omega
  exact fourDigitText_inj (hpos hext) (hpos hext') heq

/-! ### Their rows -/

theorem mem_batches_range {endExt batchStart : Int} {batch : List Int}
    (hbatch : batch ∈ batches endExt batchStart) {ext : Int} (hext : ext ∈ batch) :
    batchStart ≤ ext ∧ ext ≤ endExt := by
  have hmem := List.mem_flatten_of_mem hbatch hext
  rw [flatten_batches] at hmem
  exact mem_extensions.mp hmem

theorem exists_batch {endExt batchStart ext : Int} (hstart : batchStart ≤ ext)
    (hend : ext ≤ endExt) : ∃ batch ∈ batches endExt batchStart, ext ∈ batch := by
  have hmem := mem_extensions.mpr ⟨hstart, hend⟩
  rw [← flatten_batches] at hmem
  exact List.mem_flatten.mp hmem

theorem exists_of_mem_extensionBatches {depts : List DeptSeed} {nameIdx : Int}
    {rows : List ExtensionRow} (h : rows ∈ extensionBatches depts nameIdx) :
    ∃ ds ∈ depts, ∃ idx, ∃ batch ∈ batches ds.endExt ds.startExt,
      extensionRows ds.deptId (nameFrom idx ds.startExt) batch = rows := by
  induction depts generalizing nameIdx with
  | nil => cases h
  | cons ds rest ih =>
    rcases List.mem_append.mp h with h | h
    · exact ⟨ds, List.mem_cons_self, nameIdx, List.mem_map.mp h⟩
    · obtain ⟨ds', hds', hrows⟩ := ih h
      exact ⟨ds', List.mem_cons_of_mem _ hds', hrows⟩

theorem exists_extensionBatch {depts : List DeptSeed} {ds : DeptSeed} (hds : ds ∈ depts)
    {batch : List Int} (hbatch : batch ∈ batches ds.endExt ds.startExt) (nameIdx : Int) :
    ∃ idx, extensionRows ds.deptId (nameFrom idx ds.startExt) batch ∈
      extensionBatches depts nameIdx := by
  induction depts generalizing nameIdx with
  | nil => cases hds
  | cons ds' rest ih =>
    rcases List.mem_cons.mp hds with rfl | hds
    · exact ⟨nameIdx, List.mem_append_left _ (List.mem_map_of_mem hbatch)⟩
    · obtain ⟨idx, hmem⟩ := ih hds (nameIdx + (ds'.endExt + 1 - ds'.startExt))
      exact ⟨idx, List.mem_append_right _ hmem⟩

theorem mem_agentBatches {depts : List DeptSeed} {posts : List AgentPost} :
    posts ∈ agentBatches depts ↔ ∃ ds ∈ depts, ds.externalAccess = true ∧
      ∃ batch ∈ batches ds.endExt ds.startExt, agentPosts ds.deptId batch = posts := by
  induction depts with
  | nil => simp [agentBatches]
  | cons ds rest ih =>
    rw [agentBatches, List.mem_append, ih]
    cases hds : ds.externalAccess with
    | false => simp [hds]
    | true => simp [hds]

/-- A number of a batch, for a row that is there in any case. -/
theorem exists_number {endExt batchStart : Int} {batch : List Int}
    (hbatch : batch ∈ batches endExt batchStart) :
    ∃ ext ∈ batch, batchStart ≤ ext ∧ ext ≤ endExt := by
  have hpos := (length_of_mem_batches hbatch).1
  obtain ⟨ext, hext⟩ := List.exists_mem_of_length_pos hpos
  exact ⟨ext, hext, mem_batches_range hbatch hext⟩

theorem inserted_extensionBatch {rows : List ExtensionRow}
    (h : rows ∈ extensionBatches deptSeeds 0) :
    insertedExtensions (extensionsText rows) = some rows := by
  obtain ⟨ds, hds, idx, batch, hbatch, rfl⟩ := exists_of_mem_extensionBatches h
  refine insertedExtensions_text fun row hrow => ?_
  obtain ⟨ext, hext, rfl⟩ := List.mem_map.mp hrow
  have hstart := (valid_deptSeeds ds hds).1
  have hle := (mem_batches_range hbatch hext).1
  exact ⟨plain_fourDigitText (by omega), plain_employeeName _⟩

theorem inserted_agentBatch {posts : List AgentPost} (h : posts ∈ agentBatches deptSeeds) :
    insertedAgents (agentsText posts) = some (posts.map AgentPost.idle) := by
  obtain ⟨ds, hds, -, batch, hbatch, rfl⟩ := mem_agentBatches.mp h
  refine insertedAgents_text fun p hp => ?_
  obtain ⟨i, hi, rfl⟩ := List.mem_mapIdx.mp hp
  have hstart := (valid_deptSeeds ds hds).1
  have hle := (mem_batches_range hbatch (List.getElem_mem hi)).1
  exact ⟨plain_fourDigitText (by omega), plain_shiftLetter i⟩

/-! ## Section 6: What the tables hold -/

/-- The posts of an INSERT into `agents`. -/
def insertedPosts (text : CStr) : Option (List AgentPost) :=
  (insertedAgents text).map fun rows => rows.map SeededAgent.post

/-- The tables hold the rows of the statements that have been executed. -/
structure Holds (s : Deployment) : Prop where
  sent : ∀ text ∈ s.done, text ∈ deptsStatements deptSeeds 0
  extensions : Filled ExtensionRow.extension s.tables.extensions
    (s.done.filterMap insertedExtensions)
  agents : Filled AgentPost.extension (s.tables.agents.map SeededAgent.post)
    (s.done.filterMap insertedPosts)

theorem holds_start : Holds Deployment.start := ⟨nofun, filled_nil, filled_nil⟩

theorem insertedPosts_agentBatch {posts : List AgentPost} (h : posts ∈ agentBatches deptSeeds) :
    insertedPosts (agentsText posts) = some posts := by
  unfold insertedPosts
  rw [inserted_agentBatch h, Option.map_some, List.map_map]
  exact congrArg some (List.map_id posts)

theorem insertedExtensions_agentBatch {posts : List AgentPost}
    (h : posts ∈ agentBatches deptSeeds) : insertedExtensions (agentsText posts) = none := by
  cases hrows : insertedExtensions (agentsText posts) with
  | none => rfl
  | some rows =>
    have hnone := insertedAgents_of_extensions hrows
    rw [inserted_agentBatch h] at hnone
    cases hnone

theorem insertedPosts_extensionBatch {rows : List ExtensionRow}
    (h : rows ∈ extensionBatches deptSeeds 0) : insertedPosts (extensionsText rows) = none := by
  unfold insertedPosts
  rw [insertedAgents_of_extensions (inserted_extensionBatch h)]
  rfl

variable {s t : Deployment} {text : CStr}

theorem Holds.mem_extensionBatches (h : Holds s) {rows : List ExtensionRow}
    (hrows : rows ∈ s.done.filterMap insertedExtensions) :
    rows ∈ extensionBatches deptSeeds 0 ∧ extensionsText rows ∈ s.done := by
  obtain ⟨text, htext, hread⟩ := List.mem_filterMap.mp hrows
  rcases mem_deptsStatements.mp (h.sent text htext) with ⟨rows', hrows', rfl⟩ | ⟨posts, hposts, rfl⟩
  · rw [inserted_extensionBatch hrows'] at hread
    obtain rfl := Option.some.inj hread
    exact ⟨hrows', htext⟩
  · rw [insertedExtensions_agentBatch hposts] at hread
    cases hread

theorem Holds.mem_agentBatches (h : Holds s) {posts : List AgentPost}
    (hposts : posts ∈ s.done.filterMap insertedPosts) :
    posts ∈ agentBatches deptSeeds ∧ agentsText posts ∈ s.done := by
  obtain ⟨text, htext, hread⟩ := List.mem_filterMap.mp hposts
  rcases mem_deptsStatements.mp (h.sent text htext) with ⟨rows, hrows, rfl⟩ | ⟨posts', hposts', rfl⟩
  · rw [insertedPosts_extensionBatch hrows] at hread
    cases hread
  · rw [insertedPosts_agentBatch hposts'] at hread
    obtain rfl := Option.some.inj hread
    exact ⟨hposts', htext⟩

theorem nodup_extensionBatches :
    ((extensionBatches deptSeeds 0).flatten.map ExtensionRow.extension).Nodup := by
  rw [extensionBatches_numbers]
  exact nodup_numbers

theorem nodup_agentBatches : ((agentBatches deptSeeds).flatten.map AgentPost.extension).Nodup :=
  nodup_numbers.sublist (agentBatches_numbers deptSeeds)

/-- One statement, for the first time or again. -/
theorem Holds.execute (h : Holds s) (htext : text ∈ deptsStatements deptSeeds 0) :
    Holds (s.execute text) := by
  have hsent : ∀ u ∈ s.done ++ [text], u ∈ deptsStatements deptSeeds 0 :=
    List.forall_mem_append.mpr ⟨h.sent, List.forall_mem_singleton.mpr htext⟩
  rcases mem_deptsStatements.mp htext with ⟨rows, hrows, rfl⟩ | ⟨posts, hposts, rfl⟩
  · have hread := inserted_extensionBatch hrows
    have hne : rows ≠ [] := by
      obtain ⟨ds, -, idx, batch, hbatch, rfl⟩ := exists_of_mem_extensionBatches hrows
      obtain ⟨ext, hext, -⟩ := exists_number hbatch
      exact List.ne_nil_of_mem (List.mem_map_of_mem hext)
    refine ⟨hsent, ?_, ?_⟩
    · have hfilled := h.extensions.insertAll nodup_extensionBatches
        (fun b hb => (h.mem_extensionBatches hb).1) hrows hne
      simpa [Deployment.execute, Tables.execute, hread] using hfilled
    · simpa [Deployment.execute, Tables.execute, hread, insertedPosts_extensionBatch hrows]
        using h.agents
  · have hread := inserted_agentBatch hposts
    have hnone := insertedExtensions_agentBatch hposts
    have hmap : (posts.map AgentPost.idle).map SeededAgent.post = posts := by
      rw [List.map_map]
      exact List.map_id posts
    refine ⟨hsent, ?_, ?_⟩
    · simpa [Deployment.execute, Tables.execute, hread, hnone] using h.extensions
    · have hbatch : (posts.map AgentPost.idle).map SeededAgent.post ∈ agentBatches deptSeeds := by
        rwa [hmap]
      have hkey (r : SeededAgent) : r.agent.extension = r.post.extension := rfl
      have hfilled := h.agents.upsertAll hkey SeededAgent.post_setIdle nodup_agentBatches
        (fun b hb => (h.mem_agentBatches hb).1) hbatch
      rw [hmap] at hfilled
      simpa [Deployment.execute, Tables.execute, hread, hnone, insertedPosts_agentBatch hposts]
        using hfilled

theorem Holds.executeAll (h : Holds s) {texts : List CStr}
    (htexts : ∀ text ∈ texts, text ∈ deptsStatements deptSeeds 0) :
    Holds (texts.foldl Deployment.execute s) := by
  induction texts generalizing s with
  | nil => exact h
  | cons text texts ih =>
    obtain ⟨htext, htexts⟩ := List.forall_mem_cons.mp htexts
    exact ih (h.execute htext) htexts

/-! ## Section 7: Runs -/

/-- The program has a database. -/
def Startup.Connected (st : Startup) : Prop :=
  ∃ F, st.sync = some F ∧ F.dbEnabled = true ∧ F.mysqlPool = true

/-- The start finds at most a hundred agents, or no count. -/
def Startup.Unseeded (st : Startup) (t : Tables) : Prop :=
  ¬ dbMysqlLoadAllAgentsForCache (t.countResult st.counted) > 100

theorem Startup.mem_reached {st : Startup} {sent : List CStr} :
    text ∈ st.reached sent ↔ ∃ k, sent[k]? = some text ∧ st.executed k = true := by
  unfold Startup.reached
  simp only [List.mem_map, List.mem_filter, Prod.exists, List.mk_mem_zipIdx_iff_getElem?]
  constructor
  · rintro ⟨u, k, ⟨hk, hreached⟩, rfl⟩
    exact ⟨k, hk, hreached⟩
  · rintro ⟨k, hk, hreached⟩
    exact ⟨text, k, ⟨hk, hreached⟩, rfl⟩

/-- A start sends all statements or none. -/
theorem deployStep_startup (s : Deployment) (st : Startup) :
    ∃ sent, deployStep s (.startup st) =
        some ((st.reached sent).foldl Deployment.execute s) ∧
      (sent = deptsStatements deptSeeds 0 ∧ st.Connected ∧ st.Unseeded s.tables ∨
        sent = [] ∧ ¬ (st.Connected ∧ st.Unseeded s.tables)) := by
  by_cases hconnected : st.Connected
  · obtain ⟨F, hsync, hdb, hpool⟩ := hconnected
    by_cases hunseeded : st.Unseeded s.tables
    · obtain ⟨seeding, hrun, hemits⟩ :=
        seedDemoData_emits st.execute hdb hpool hunseeded (Seeding.start 0)
      refine ⟨deptsStatements deptSeeds 0, ?_, Or.inl ⟨rfl, ⟨F, hsync, hdb, hpool⟩, hunseeded⟩⟩
      have hsent : seeding.sent = deptsStatements deptSeeds 0 :=
        hemits.sent.trans (List.nil_append _)
      simp only [deployStep, hsync, hrun, Option.map_some, hsent]
    · refine ⟨[], ?_, Or.inr ⟨rfl, fun h => hunseeded h.2⟩⟩
      have hmany := not_not.mp hunseeded
      simp [deployStep, hsync, dbSyncSeedDemoData, hdb, hpool, hmany, Seeding.start]
  · refine ⟨[], ?_, Or.inr ⟨rfl, fun h => hconnected h.1⟩⟩
    cases hsync : st.sync with
    | none => simp [deployStep, hsync, dbSyncSeedDemoData, Seeding.start]
    | some F =>
      have hnone : (!F.dbEnabled) = true ∨ (!F.mysqlPool) = true := by
        by_contra hboth
        simp only [Bool.not_eq_true', not_or, Bool.not_eq_false] at hboth
        exact hconnected ⟨F, hsync, hboth⟩
      simp only [deployStep, hsync, dbSyncSeedDemoData, if_pos hnone, Option.map_some]
      rfl

theorem reached_subset (st : Startup) (sent : List CStr) : st.reached sent ⊆ sent := by
  intro text htext
  obtain ⟨k, hk, -⟩ := Startup.mem_reached.mp htext
  exact List.mem_of_getElem? hk

theorem map_post_updateStatus (extension status : CStr) (calls : Int32)
    (agents : List SeededAgent) :
    (agents.map fun r => { r with agent := setRowStatus extension status calls r.agent }).map
      SeededAgent.post = agents.map SeededAgent.post := by
  rw [List.map_map]
  refine List.map_congr_left fun r _ => ?_
  simp [SeededAgent.post]

theorem Holds.step {l : DeployLabel} (h : Holds s) (hstep : deployStep s l = some t) :
    Holds t := by
  cases l with
  | startup st =>
    obtain ⟨sent, hrun, hsent⟩ := deployStep_startup s st
    rw [hrun] at hstep
    obtain rfl := Option.some.inj hstep
    refine h.executeAll fun text htext => ?_
    have hmem := reached_subset st sent htext
    rcases hsent with ⟨rfl, -⟩ | ⟨rfl, -⟩
    · exact hmem
    · cases hmem
  | updateStatus extension status calls =>
    obtain rfl := Option.some.inj hstep
    refine ⟨h.sent, h.extensions, ?_⟩
    rw [map_post_updateStatus]
    exact h.agents

theorem Holds.run {ls : List DeployLabel} (hrun : Run (ofPartial deployStep) s ls t)
    (h : Holds s) : Holds t :=
  hrun.invariant h fun _ _ _ h hstep => h.step hstep

/-- Every number of every department has its row, and its agent if the
    department takes calls from outside. -/
def Tables.Complete (t : Tables) : Prop :=
  ∀ ds ∈ deptSeeds, ∀ ext, ds.startExt ≤ ext → ext ≤ ds.endExt →
    (∃ row ∈ t.extensions,
      row.extension = fourDigitText ext ∧ row.departmentId = ds.deptId) ∧
    (ds.externalAccess = true → ∃ row ∈ t.agents,
      row.agent.extension = fourDigitText ext ∧ row.departmentId = ds.deptId)

theorem Holds.complete_iff (h : Holds s) :
    s.tables.Complete ↔ ∀ text ∈ deptsStatements deptSeeds 0, text ∈ s.done := by
  constructor
  · intro hcomplete text htext
    rcases mem_deptsStatements.mp htext with ⟨rows, hrows, rfl⟩ | ⟨posts, hposts, rfl⟩
    · obtain ⟨ds, hds, idx, batch, hbatch, rfl⟩ := exists_of_mem_extensionBatches hrows
      obtain ⟨ext, hext, hstart, hend⟩ := exists_number hbatch
      obtain ⟨row, hrow, hnumber, -⟩ := (hcomplete ds hds ext hstart hend).1
      -- the number is there, so its batch is
      have hkey := List.mem_map_of_mem (f := ExtensionRow.extension) hrow
      rw [hnumber] at hkey
      have hmem := (h.extensions.key_mem_iff nodup_extensionBatches
        (fun b hb => (h.mem_extensionBatches hb).1) hrows (List.mem_map_of_mem hext)).mp hkey
      exact (h.mem_extensionBatches hmem).2
    · obtain ⟨ds, hds, hexternal, batch, hbatch, rfl⟩ := Reseeding.mem_agentBatches.mp hposts
      obtain ⟨ext, hext, hstart, hend⟩ := exists_number hbatch
      obtain ⟨row, hrow, hnumber, -⟩ := (hcomplete ds hds ext hstart hend).2 hexternal
      obtain ⟨i, hi, rfl⟩ := List.getElem_of_mem hext
      have hkey : fourDigitText batch[i] ∈
          (s.tables.agents.map SeededAgent.post).map AgentPost.extension :=
        hnumber ▸ List.mem_map_of_mem (List.mem_map_of_mem hrow)
      have hmem := (h.agents.key_mem_iff nodup_agentBatches
        (fun b hb => (h.mem_agentBatches hb).1) hposts
        (List.mem_mapIdx.mpr ⟨i, hi, rfl⟩)).mp hkey
      exact (h.mem_agentBatches hmem).2
  · intro hall ds hds ext hstart hend
    obtain ⟨batch, hbatch, hext⟩ := exists_batch hstart hend
    constructor
    · obtain ⟨idx, hrows⟩ := exists_extensionBatch hds hbatch 0
      have hdone := hall _ (mem_deptsStatements.mpr (Or.inl ⟨_, hrows, rfl⟩))
      have hfilled := List.mem_filterMap.mpr ⟨_, hdone, inserted_extensionBatch hrows⟩
      exact ⟨_, (h.extensions.mem_iff _).mpr ⟨_, hfilled, List.mem_map_of_mem hext⟩, rfl, rfl⟩
    · intro hexternal
      have hposts := Reseeding.mem_agentBatches.mpr ⟨ds, hds, hexternal, batch, hbatch, rfl⟩
      have hdone := hall _ (mem_deptsStatements.mpr (Or.inr ⟨_, hposts, rfl⟩))
      have hfilled := List.mem_filterMap.mpr ⟨_, hdone, insertedPosts_agentBatch hposts⟩
      obtain ⟨i, hi, rfl⟩ := List.getElem_of_mem hext
      have hmem := (h.agents.mem_iff _).mpr ⟨_, hfilled, List.mem_mapIdx.mpr ⟨i, hi, rfl⟩⟩
      obtain ⟨row, hrow, hpost⟩ := List.mem_map.mp hmem
      exact ⟨row, hrow, congrArg AgentPost.extension hpost,
        congrArg AgentPost.departmentId hpost⟩

/-- **The demo data over any number of starts**, of which each may lose any of
    its statements: no number is there twice, and all are there just when
    every statement has been executed by some start. -/
theorem seeding_complete_iff {ls : List DeployLabel}
    (hrun : Run (ofPartial deployStep) Deployment.start ls s) :
    (s.tables.extensions.map ExtensionRow.extension).Nodup ∧
      (s.tables.agents.map fun r => r.agent.extension).Nodup ∧
      (s.tables.Complete ↔ ∀ text ∈ deptsStatements deptSeeds 0, text ∈ s.done) := by
  have h := holds_start.run hrun
  have hagents := h.agents.nodup
  rw [List.map_map] at hagents
  exact ⟨h.extensions.nodup, hagents, h.complete_iff⟩

/-- A start with a database that loses the first statement. -/
def Startup.losesFirst : Startup where
  sync := some ⟨true, true, true, true, true, 0, 30⟩
  counted := true
  execute := fun _ => -1
  executed := fun k => k ≠ 0

theorem seeding_complete_iff_losesFirst :
    ∃ s, Run (ofPartial deployStep) Deployment.start [.startup .losesFirst] s ∧
      (s.tables.extensions.map ExtensionRow.extension).Nodup ∧
      (s.tables.agents.map fun r => r.agent.extension).Nodup ∧
      (s.tables.Complete ↔ ∀ text ∈ deptsStatements deptSeeds 0, text ∈ s.done) := by
  obtain ⟨sent, hstep, -⟩ := deployStep_startup Deployment.start .losesFirst
  have hrun := @Run.single _ _ (ofPartial deployStep) _ _ _ hstep
  exact ⟨_, hrun, seeding_complete_iff hrun⟩

/-! ## Section 8: With more than a hundred agents -/

theorem length_le_execute (s : Deployment) (text : CStr) :
    s.tables.agents.length ≤ (s.execute text).tables.agents.length := by
  unfold Deployment.execute Tables.execute
  split
  · exact Nat.le_refl _
  · exact length_le_upsertAll _ _ _
  · exact Nat.le_refl _

theorem length_le_executeAll (s : Deployment) (texts : List CStr) :
    s.tables.agents.length ≤ (texts.foldl Deployment.execute s).tables.agents.length := by
  induction texts generalizing s with
  | nil => exact Nat.le_refl _
  | cons text texts ih => exact (length_le_execute s text).trans (ih _)

theorem done_executeAll (s : Deployment) (texts : List CStr) :
    (texts.foldl Deployment.execute s).done = s.done ++ texts := by
  induction texts generalizing s with
  | nil => exact (List.append_nil _).symm
  | cons text texts ih =>
    rw [List.foldl_cons, ih, Deployment.execute, List.append_assoc]
    rfl

/-- There are no more agents than employees. -/
theorem Holds.length_le (h : Holds s) : s.tables.agents.length ≤ 1210 := by
  have hkeys : (s.tables.agents.map SeededAgent.post).map AgentPost.extension ⊆
      numbers deptSeeds := by
    intro k hk
    obtain ⟨p, hp, rfl⟩ := List.mem_map.mp hk
    obtain ⟨posts, hposts, hmem⟩ := (h.agents.mem_iff p).mp hp
    have hbatch := (h.mem_agentBatches hposts).1
    exact (agentBatches_numbers deptSeeds).subset
      (List.mem_map_of_mem (List.mem_flatten_of_mem hbatch hmem))
  have hle := (h.agents.nodup.subperm hkeys).length_le
  have hcount : (numbers deptSeeds).length = 1210 := by
    have hsizes : (deptSeeds.map fun ds => (ds.endExt + 1 - ds.startExt).toNat).sum = 1210 := by
      decide
    unfold numbers
    rw [List.length_map, List.length_flatMap]
    simp only [length_extensions, hsizes]
  rwa [List.length_map, List.length_map, hcount] at hle

theorem atoi_natText {n : Nat} (hn : n < 2 ^ 31) : (atoi (natText n)).toInt = n := by
  have htext : intText (Int32.ofNat n) = natText n := by
    have hvalue := Int32.toInt_ofNat_of_lt hn
    unfold intText
    rw [hvalue, if_neg (by omega), Int.natAbs_natCast]
  rw [← htext, atoi_intText, Int32.toInt_ofNat_of_lt hn]

/-- With more than a hundred agents only a start without a count sends. -/
theorem Holds.unseeded_iff (h : Holds s) (hmany : 100 < s.tables.agents.length)
    (st : Startup) : st.Unseeded s.tables ↔ st.counted = false := by
  unfold Startup.Unseeded Tables.countResult
  cases hcounted : st.counted with
  | false => exact iff_of_true (fun h : (-1 : Int32) > 100 => absurd h (by decide)) rfl
  | true =>
    have hle := h.length_le
    have hvalue := atoi_natText (n := s.tables.agents.length) (by omega)
    have hgreater : dbMysqlLoadAllAgentsForCache
        (some (some (natText s.tables.agents.length))) > 100 := by
      show (100 : Int32) < atoi (natText s.tables.agents.length)
      rw [Int32.lt_iff_toInt_lt, hvalue]
      have hhundred : (100 : Int32).toInt = 100 := rfl
      omega
    exact iff_of_false (fun hunseeded => hunseeded hgreater) nofun

/-- A start in `ls` that gets no count has the statement executed. -/
def ExecutedUncounted (ls : List DeployLabel) (text : CStr) : Prop :=
  ∃ st, .startup st ∈ ls ∧ st.Connected ∧ st.counted = false ∧
    text ∈ st.reached (deptsStatements deptSeeds 0)

/-- What the starts since `s` have added. -/
structure Since (s : Deployment) (ls : List DeployLabel) (t : Deployment) : Prop where
  holds : Holds t
  many : 100 < t.tables.agents.length
  done_iff : ∀ text, text ∈ t.done ↔ text ∈ s.done ∨ ExecutedUncounted ls text

theorem Since.step {ls : List DeployLabel} {l : DeployLabel} {u : Deployment}
    (h : Since s ls t) (hstep : deployStep t l = some u) : Since s (ls ++ [l]) u := by
  have hholds := h.holds.step hstep
  have hmono {text : CStr} (hls : ExecutedUncounted ls text) :
      ExecutedUncounted (ls ++ [l]) text := by
    obtain ⟨st, hst, hrest⟩ := hls
    exact ⟨st, List.mem_append_left _ hst, hrest⟩
  cases l with
  | startup st =>
    obtain ⟨sent, hrun, hsent⟩ := deployStep_startup t st
    rw [hrun] at hstep
    obtain rfl := Option.some.inj hstep
    refine ⟨hholds, h.many.trans_le (length_le_executeAll _ _), fun text => ?_⟩
    rw [done_executeAll, List.mem_append, h.done_iff]
    rw [h.holds.unseeded_iff h.many] at hsent
    constructor
    · rintro ((hold | hls) | hnew)
      · exact Or.inl hold
      · exact Or.inr (hmono hls)
      · rcases hsent with ⟨rfl, hconnected, hcounted⟩ | ⟨rfl, -⟩
        · exact Or.inr ⟨st, List.mem_append_right _ List.mem_cons_self, hconnected, hcounted, hnew⟩
        · exact absurd (reached_subset st [] hnew) List.not_mem_nil
    · rintro (hold | ⟨st', hst', hconnected, hcounted, hreached⟩)
      · exact Or.inl (Or.inl hold)
      rcases List.mem_append.mp hst' with hst' | hst'
      · exact Or.inl (Or.inr ⟨st', hst', hconnected, hcounted, hreached⟩)
      obtain rfl := DeployLabel.startup.inj (List.mem_singleton.mp hst')
      rcases hsent with ⟨rfl, -⟩ | ⟨-, hnot⟩
      · exact Or.inr hreached
      · exact absurd ⟨hconnected, hcounted⟩ hnot
  | updateStatus extension status calls =>
    obtain rfl := Option.some.inj hstep
    refine ⟨hholds, ?_, fun text => ?_⟩
    · show 100 < (List.map _ _).length
      rw [List.length_map]
      exact h.many
    · show text ∈ t.done ↔ _
      rw [h.done_iff]
      refine or_congr Iff.rfl ⟨hmono, ?_⟩
      rintro ⟨st, hst, hrest⟩
      rcases List.mem_append.mp hst with hst | hst
      · exact ⟨st, hst, hrest⟩
      · cases List.mem_singleton.mp hst

/-- **Once there are more than a hundred agents**, what an interrupted seeding
    has left out is added just by starts whose count fails. -/
theorem interrupted_iff {ls ls' : List DeployLabel}
    (hrun : Run (ofPartial deployStep) Deployment.start ls s)
    (hmany : 100 < s.tables.agents.length) (hrun' : Run (ofPartial deployStep) s ls' t) :
    t.tables.Complete ↔
      ∀ text ∈ deptsStatements deptSeeds 0, text ∈ s.done ∨ ExecutedUncounted ls' text := by
  have hstart : Since s [] s := by
    refine ⟨holds_start.run hrun, hmany, fun text => ?_⟩
    constructor
    · exact Or.inl
    · rintro (hdone | ⟨st, hst, -⟩)
      · exact hdone
      · cases hst
  have hsince : Since s ls' t :=
    hrun'.trace_invariant hstart fun _ _ _ _ _ h hstep => h.step hstep
  rw [hsince.holds.complete_iff]
  exact forall₂_congr fun text _ => hsince.done_iff text

/-- The agents of one department. -/
theorem Tables.Complete.length_le {t : Tables} (h : t.Complete) {ds : DeptSeed}
    (hds : ds ∈ deptSeeds) (hexternal : ds.externalAccess = true) :
    (ds.endExt + 1 - ds.startExt).toNat ≤ t.agents.length := by
  have hkeys : (DbSync.extensions ds.startExt ds.endExt).map fourDigitText ⊆
      t.agents.map fun r => r.agent.extension := by
    intro k hk
    obtain ⟨ext, hext, rfl⟩ := List.mem_map.mp hk
    obtain ⟨hstart, hend⟩ := mem_extensions.mp hext
    obtain ⟨row, hrow, hnumber, -⟩ := (h ds hds ext hstart hend).2 hexternal
    exact hnumber ▸ List.mem_map_of_mem hrow
  have hnumbers : (DbSync.extensions ds.startExt ds.endExt).Nodup :=
    (pairwise_extensions _ _).imp Int.ne_of_lt
  have hnodup : ((DbSync.extensions ds.startExt ds.endExt).map fourDigitText).Nodup := by
    refine hnumbers.map_on fun ext hext ext' hext' heq => ?_
    have hstart := (valid_deptSeeds ds hds).1
    have hlo := (mem_extensions.mp hext).1
    have hlo' := (mem_extensions.mp hext').1
    exact fourDigitText_inj (by omega) (by omega) heq
  have hle := (hnodup.subperm hkeys).length_le
  rwa [List.length_map, List.length_map, length_extensions] at hle

/-- Complete tables are not filled again: Sales alone has more than a hundred
    agents. -/
theorem Tables.Complete.many {t : Tables} (h : t.Complete) : 100 < t.agents.length := by
  have hsales : ⟨5, cstr "2001", cstr "2400", true⟩ ∈ deptSeeds := by simp [deptSeeds]
  have hle := h.length_le hsales rfl
  have hcount : ((atoi (cstr "2400")).toInt + 1 - (atoi (cstr "2001")).toInt).toNat = 400 := by
    decide
  unfold DeptSeed.startExt DeptSeed.endExt at hle
  dsimp only at hle
  omega

/-- A first start that loses nothing, and one that gets no count. -/
def Startup.losesNothing : Startup := { Startup.losesFirst with executed := fun _ => true }

def Startup.losesCount : Startup := { Startup.losesFirst with counted := false }

/-- After a start that loses nothing the tables are complete. -/
theorem complete_losesNothing :
    ∃ s, Run (ofPartial deployStep) Deployment.start [.startup .losesNothing] s ∧
      s.tables.Complete := by
  obtain ⟨sent, hstep, hsent⟩ := deployStep_startup Deployment.start .losesNothing
  have hrun := @Run.single _ _ (ofPartial deployStep) _ _ _ hstep
  have hconnected : Startup.losesNothing.Connected := ⟨_, rfl, rfl, rfl⟩
  have hunseeded : Startup.losesNothing.Unseeded Deployment.start.tables := by
    show ¬ atoi (natText 0) > 100
    decide
  refine ⟨_, hrun, (holds_start.run hrun).complete_iff.mpr fun text htext => ?_⟩
  rcases hsent with ⟨rfl, -⟩ | ⟨-, hnot⟩
  · rw [done_executeAll]
    obtain ⟨k, hk, rfl⟩ := List.getElem_of_mem htext
    exact List.mem_append_right _
      (Startup.mem_reached.mpr ⟨k, List.getElem?_eq_getElem hk, rfl⟩)
  · exact absurd ⟨hconnected, hunseeded⟩ hnot

theorem interrupted_iff_losesCount :
    ∃ s t, Run (ofPartial deployStep) Deployment.start [.startup .losesNothing] s ∧
      100 < s.tables.agents.length ∧
      Run (ofPartial deployStep) s [.startup .losesCount] t ∧
      (t.tables.Complete ↔ ∀ text ∈ deptsStatements deptSeeds 0,
        text ∈ s.done ∨ ExecutedUncounted [.startup .losesCount] text) := by
  obtain ⟨s, hrun, hcomplete⟩ := complete_losesNothing
  obtain ⟨sent, hstep, -⟩ := deployStep_startup s .losesCount
  have hrun' := @Run.single _ _ (ofPartial deployStep) _ _ _ hstep
  exact ⟨s, _, hrun, hcomplete.many, hrun', interrupted_iff hrun hcomplete.many hrun'⟩

/-! ## Section 9: What a start does to the agents -/

/-- The statement inserts an agent with the number, or sets it to idle. -/
def Names (text number : CStr) : Prop :=
  ∃ rows, insertedAgents text = some rows ∧ number ∈ rows.map fun r => r.agent.extension

theorem setIdle_of_inserted {rows : List SeededAgent}
    (htext : text ∈ deptsStatements deptSeeds 0) (h : insertedAgents text = some rows) :
    ∀ r ∈ rows, r.setIdle = r := by
  rcases mem_deptsStatements.mp htext with ⟨rows', hrows', rfl⟩ | ⟨posts, hposts, rfl⟩
  · rw [insertedAgents_of_extensions (inserted_extensionBatch hrows')] at h
    cases h
  · rw [inserted_agentBatch hposts] at h
    obtain rfl := Option.some.inj h
    intro r hr
    obtain ⟨p, -, rfl⟩ := List.mem_map.mp hr
    rfl

theorem mem_execute (htext : text ∈ deptsStatements deptSeeds 0) {r : SeededAgent}
    (h : r ∈ (s.execute text).tables.agents) :
    r.setIdle = r ∧ Names text r.agent.extension ∨
      r ∈ s.tables.agents ∧ ¬ Names text r.agent.extension := by
  cases hagents : insertedAgents text with
  | none =>
    have hnames : ¬ Names text r.agent.extension := by
      rintro ⟨rows, hrows, -⟩
      rw [hagents] at hrows
      cases hrows
    refine Or.inr ⟨?_, hnames⟩
    unfold Deployment.execute Tables.execute at h
    cases hextensions : insertedExtensions text with
    | none => simpa [hagents, hextensions] using h
    | some rows => simpa [hagents, hextensions] using h
  | some rows =>
    have hextensions : insertedExtensions text = none := by
      cases hextensions : insertedExtensions text with
      | none => rfl
      | some rows' =>
        rw [insertedAgents_of_extensions hextensions] at hagents
        cases hagents
    have hnames : Names text r.agent.extension ↔
        r.agent.extension ∈ rows.map fun r => r.agent.extension := by
      simp [Names, hagents]
    have hmem : r ∈ upsertAll (fun r : SeededAgent => r.agent.extension) SeededAgent.setIdle
        s.tables.agents rows := by
      simpa [Deployment.execute, Tables.execute, hagents, hextensions] using h
    have hkey (r : SeededAgent) : r.setIdle.agent.extension = r.agent.extension := rfl
    have hidem (r : SeededAgent) : r.setIdle.setIdle = r.setIdle := rfl
    rw [hnames]
    exact mem_upsertAll hkey hidem (setIdle_of_inserted htext hagents) hmem

theorem mem_executeAll {texts : List CStr}
    (htexts : ∀ text ∈ texts, text ∈ deptsStatements deptSeeds 0) {r : SeededAgent}
    (h : r ∈ (texts.foldl Deployment.execute s).tables.agents) :
    r.setIdle = r ∧ (∃ text ∈ texts, Names text r.agent.extension) ∨
      r ∈ s.tables.agents ∧ ∀ text ∈ texts, ¬ Names text r.agent.extension := by
  induction texts generalizing s with
  | nil => exact Or.inr ⟨h, fun _ hmem => absurd hmem List.not_mem_nil⟩
  | cons text texts ih =>
    obtain ⟨htext, htexts⟩ := List.forall_mem_cons.mp htexts
    rcases ih htexts h with ⟨hidle, text', htext', hnames⟩ | ⟨hbefore, hnot⟩
    · exact Or.inl ⟨hidle, text', List.mem_cons_of_mem _ htext', hnames⟩
    · rcases mem_execute htext hbefore with ⟨hidle, hnames⟩ | ⟨hold, hnames⟩
      · exact Or.inl ⟨hidle, text, List.mem_cons_self, hnames⟩
      · exact Or.inr ⟨hold, List.forall_mem_cons.mpr ⟨hnames, hnot⟩⟩

/-- The start has a statement executed that names the number. -/
def Startup.Resets (st : Startup) (t : Tables) (number : CStr) : Prop :=
  st.Connected ∧ st.Unseeded t ∧
    ∃ text ∈ st.reached (deptsStatements deptSeeds 0), Names text number

/-- **A start and the agents**: no agent is lost, those that an executed
    statement names are idle and without calls, whatever they did before, and
    every other row is as it was. -/
theorem start_resets {ls : List DeployLabel} {st : Startup}
    (hrun : Run (ofPartial deployStep) Deployment.start ls s)
    (hstep : deployStep s (.startup st) = some t) :
    (∀ r ∈ s.tables.agents, ∃ r' ∈ t.tables.agents, r'.post = r.post) ∧
      ∀ r ∈ t.tables.agents,
        (st.Resets s.tables r.agent.extension → r = r.post.idle) ∧
        (¬ st.Resets s.tables r.agent.extension → r ∈ s.tables.agents) := by
  have hbefore := holds_start.run hrun
  have hafter := hbefore.step hstep
  obtain ⟨sent, hsteps, hsent⟩ := deployStep_startup s st
  rw [hsteps] at hstep
  obtain rfl := Option.some.inj hstep
  have htexts : ∀ text ∈ st.reached sent, text ∈ deptsStatements deptSeeds 0 := by
    intro text htext
    have hmem := reached_subset st sent htext
    rcases hsent with ⟨rfl, -⟩ | ⟨rfl, -⟩
    · exact hmem
    · cases hmem
  have hresets (number : CStr) : st.Resets s.tables number ↔
      ∃ text ∈ st.reached sent, Names text number := by
    rcases hsent with ⟨rfl, hconnected, hunseeded⟩ | ⟨rfl, hnot⟩
    · exact ⟨fun h => h.2.2, fun h => ⟨hconnected, hunseeded, h⟩⟩
    · refine iff_of_false (fun h => hnot ⟨h.1, h.2.1⟩) ?_
      rintro ⟨text, htext, -⟩
      exact absurd (reached_subset st [] htext) List.not_mem_nil
  constructor
  · intro r hr
    -- the batch of the agent has been executed before
    obtain ⟨posts, hposts, hmem⟩ := (hbefore.agents.mem_iff _).mp (List.mem_map_of_mem hr)
    have hstill : posts ∈
        ((st.reached sent).foldl Deployment.execute s).done.filterMap insertedPosts := by
      rw [done_executeAll, List.filterMap_append]
      exact List.mem_append_left _ hposts
    exact List.mem_map.mp ((hafter.agents.mem_iff _).mpr ⟨posts, hstill, hmem⟩)
  · intro r hr
    rw [hresets]
    rcases mem_executeAll htexts hr with ⟨hidle, hnames⟩ | ⟨hold, hnames⟩
    · exact ⟨fun _ => hidle.symm, fun hnot => absurd hnames hnot⟩
    · refine ⟨?_, fun _ => hold⟩
      rintro ⟨text, htext, hname⟩
      exact absurd hname (hnames text htext)

/-- A start without a count, on complete tables. -/
theorem start_resets_losesCount :
    ∃ s t, deployStep s (.startup .losesCount) = some t ∧ s.tables.Complete ∧
      (∀ r ∈ s.tables.agents, ∃ r' ∈ t.tables.agents, r'.post = r.post) ∧
      ∀ r ∈ t.tables.agents,
        (Startup.losesCount.Resets s.tables r.agent.extension → r = r.post.idle) ∧
        (¬ Startup.losesCount.Resets s.tables r.agent.extension → r ∈ s.tables.agents) := by
  obtain ⟨s, hrun, hcomplete⟩ := complete_losesNothing
  obtain ⟨sent, hstep, -⟩ := deployStep_startup s .losesCount
  exact ⟨s, _, hstep, hcomplete, start_resets hrun hstep⟩

end DbSync.Reseeding
