import Mathlib.Data.List.Basic
import Mathlib.Logic.Function.Basic
import CallCenter.Framework.LuaApi

/-! # Hot Reload of the Script

    `lua_vm_reload_script` of `lua_utils.c`.  A chunk is what a file compiles
    to, a function on the state `σ` of the script that may end in an error.
    The result of `luaL_loadfile` is not looked at: if the file does not
    compile, `lua_pcall` is given the message.

    Its comments promise that the old script stays in force when the reload
    fails.  The stack does stay as it was (`reload_run`), and so do the
    globals if the file does not compile.  A chunk that raises an error is
    cut off after the assignments it has made, and nothing takes them back
    (`reload_failure_iff`). -/

namespace LuaUtils

open CFormat LuaApi

/-! ## Section 1: The function -/

/-- The error that a run of the chunk raises, and the state it leaves. -/
abbrev Chunk (σ : Type) : Type := σ → Option CStr × σ

variable {T σ : Type}

/-- A chunk takes no arguments and returns nothing. -/
def runChunk : Calls (Chunk σ) T σ := fun chunk _ s =>
  match chunk s with
  | (none, s) => (.ok [], s)
  | (some message, s) => (.error (.str message), s)

/-- `lua_vm_t`; `L` is NULL before `lua_vm_init`. -/
structure LuaVm (T σ : Type) where
  L : Option (State (Chunk σ) T σ)
  scriptPath : CStr

/-- `lua_vm_reload_script`, for a VM that is not NULL. -/
def luaVmReloadScript (disk : CStr → ScriptFile (Chunk σ)) (vm : LuaVm T σ) :
    Int32 × LuaVm T σ :=
  match vm.L with
  | none => (-1, vm)
  | some L =>
    if vm.scriptPath = [] then (-1, vm)
    else
      let (ok, L) := (L.loadfile (disk vm.scriptPath)).pcall runChunk 0 0
      if ok then (0, { vm with L := some L }) else (-1, { vm with L := some L.pop })

/-- What a file does to the state of the script, and the code of its reload.
    Of a chunk that raises an error all assignments stay. -/
def runFile (file : ScriptFile (Chunk σ)) (s : σ) : Int32 × σ :=
  match file with
  | .broken _ => (-1, s)
  | .compiles chunk => (if (chunk s).1 = none then 0 else -1, (chunk s).2)

/-- The `lua_State` after a reload: one slot was used for the call of the
    file. -/
def reloaded (L : State (Chunk σ) T σ) (script : σ) : State (Chunk σ) T σ :=
  { L.useSlot with script, pcalls := L.pcalls ++ [⟨0, L.stack.length + 1⟩] }

/-- The reload runs the file, and its error is only reported. -/
theorem reload_run (disk : CStr → ScriptFile (Chunk σ)) {vm : LuaVm T σ}
    {L : State (Chunk σ) T σ} (hL : vm.L = some L) (hpath : vm.scriptPath ≠ []) :
    luaVmReloadScript disk vm =
      ((runFile (disk vm.scriptPath) L.script).1,
        { vm with L := some (reloaded L (runFile (disk vm.scriptPath) L.script).2) }) := by
  simp only [luaVmReloadScript, hL, hpath, if_false]
  cases disk vm.scriptPath with
  | broken message => rfl
  | compiles chunk =>
    have hcall : callValue runChunk (L.push (.function chunk)).stack[0]?
        ((L.push (.function chunk)).stack.take 0).reverse (L.push (.function chunk)).script =
          runChunk chunk [] L.script := rfl
    simp only [State.loadfile, State.pcall, hcall, runChunk, runFile]
    cases hrun : chunk L.script with
    | mk error script =>
      cases error with
      | none => rfl
      | some message => rfl

/-! ## Section 2: Scripts that assign globals -/

variable {Name Val : Type} [DecidableEq Name]

/-- A sequence of assignments; `raises` is the number of those that are made
    before an error, and its message. -/
structure Assignments (Name Val : Type) where
  statements : List (Name × Val)
  raises : Option (Nat × CStr)

/-- The assignments that a run makes. -/
def Assignments.executed (script : Assignments Name Val) : List (Name × Val) :=
  match script.raises with
  | none => script.statements
  | some (k, _) => script.statements.take k

def assign (globals : Name → Val) (a : Name × Val) : Name → Val :=
  Function.update globals a.1 a.2

def Assignments.chunk (script : Assignments Name Val) : Chunk (Name → Val) := fun globals =>
  (script.raises.map Prod.snd, script.executed.foldl assign globals)

/-- A script on disk. -/
inductive DiskScript (Name Val : Type) where
  | broken (message : CStr)
  | assignments (script : Assignments Name Val)

def DiskScript.file : DiskScript Name Val → ScriptFile (Chunk (Name → Val))
  | .broken message => .broken message
  | .assignments script => .compiles script.chunk

/-- The value that the last of the assignments to `name` gives it. -/
def lastAssigned (assignments : List (Name × Val)) (name : Name) : Option Val :=
  (assignments.reverse.find? fun a => a.1 = name).map Prod.snd

theorem foldl_assign (assignments : List (Name × Val)) (globals : Name → Val) (name : Name) :
    assignments.foldl assign globals name =
      (lastAssigned assignments name).getD (globals name) := by
  induction assignments using List.reverseRecOn with
  | nil => rfl
  | append_singleton assignments a ih =>
    rw [List.foldl_concat]
    by_cases h : a.1 = name
    · have hlast : lastAssigned (assignments ++ [a]) name = some a.2 := by
        simp [lastAssigned, h]
      rw [hlast, ← h]
      exact Function.update_self _ _ _
    · have hlast : lastAssigned (assignments ++ [a]) name = lastAssigned assignments name := by
        simp [lastAssigned, h]
      rw [hlast, ← ih]
      exact Function.update_of_ne (Ne.symm h) _ _

/-! ## Section 3: A failed reload -/

/-- A reload that returns -1 leaves every global its value and the stack its
    height. -/
def FailureKeepsScript (disk : CStr → DiskScript Name Val) (vm : LuaVm T (Name → Val)) : Prop :=
  (luaVmReloadScript (fun path => (disk path).file) vm).1 = -1 →
    ∀ L, vm.L = some L →
      ∃ L', (luaVmReloadScript (fun path => (disk path).file) vm).2.L = some L' ∧
        (∀ name, L'.script name = L.script name) ∧ L'.stack.length = L.stack.length

/-- The script raises no error, or the globals that it assigns before the
    error end up with the values they have. -/
def DiskScript.Harmless (script : DiskScript Name Val) (globals : Name → Val) : Prop :=
  match script with
  | .broken _ => True
  | .assignments script =>
    script.raises = none ∨
      ∀ name v, lastAssigned script.executed name = some v → globals name = v

/-- What a run of assignments leaves as it was. -/
theorem foldl_assign_eq_iff (assignments : List (Name × Val)) (globals : Name → Val) :
    (∀ name, assignments.foldl assign globals name = globals name) ↔
      ∀ name v, lastAssigned assignments name = some v → globals name = v := by
  constructor
  · intro h name v hlast
    have hname := h name
    rw [foldl_assign, hlast] at hname
    exact hname.symm
  · intro h name
    rw [foldl_assign]
    cases hlast : lastAssigned assignments name with
    | none => rfl
    | some v => exact (h name v hlast).symm

/-- **A failed reload** leaves the old script in force exactly if there was
    none to run, or the file does not compile, or what it assigns before its
    error is there already. -/
theorem reload_failure_iff (disk : CStr → DiskScript Name Val) (vm : LuaVm T (Name → Val)) :
    FailureKeepsScript disk vm ↔
      ∀ L, vm.L = some L → vm.scriptPath ≠ [] → (disk vm.scriptPath).Harmless L.script := by
  constructor
  · intro hkeeps L hL hpath
    have hrun := reload_run (fun path => (disk path).file) hL hpath
    cases hdisk : disk vm.scriptPath with
    | broken message => trivial
    | assignments script =>
      rw [hdisk] at hrun
      by_cases hraises : script.raises = none
      · exact Or.inl hraises
      · right
        have herror : (script.chunk L.script).1 ≠ none := by
          simpa [Assignments.chunk] using hraises
        have hfailed := hkeeps (by rw [hrun]; exact if_neg herror) L hL
        rw [hrun] at hfailed
        obtain ⟨L', hL', hsame, -⟩ := hfailed
        obtain rfl := Option.some.inj hL'
        exact (foldl_assign_eq_iff script.executed L.script).mp hsame
  · intro hharmless hfailed L hL
    by_cases hpath : vm.scriptPath = []
    · refine ⟨L, ?_, fun _ => rfl, rfl⟩
      simp only [luaVmReloadScript, hL, hpath, if_true]
    have hok := hharmless L hL hpath
    have hrun := reload_run (fun path => (disk path).file) hL hpath
    rw [hrun] at hfailed ⊢
    refine ⟨_, rfl, ?_, rfl⟩
    cases hdisk : disk vm.scriptPath with
    | broken message =>
      intro name
      rfl
    | assignments script =>
      rw [hdisk] at hok hfailed
      rcases hok with hnone | hsame
      · -- then the reload did not fail
        have hno : (script.chunk L.script).1 = none := by simp [Assignments.chunk, hnone]
        rw [DiskScript.file, runFile, if_pos hno] at hfailed
        cases hfailed
      · exact (foldl_assign_eq_iff script.executed L.script).mpr hsame

/-- One assignment, then an error. -/
theorem reload_failure_overwrites :
    ¬ ∀ (disk : CStr → DiskScript CStr Int) (vm : LuaVm Unit (CStr → Int)),
      FailureKeepsScript disk vm := by
  intro h
  let script : Assignments CStr Int := ⟨[(cstr "timeout", 9)], some (1, cstr "error")⟩
  have hkeeps := h (fun _ => .assignments script) ⟨some (.newstate fun _ => 5), cstr "route.lua"⟩
  obtain ⟨L', hL', hsame, -⟩ := hkeeps rfl _ rfl
  obtain rfl := Option.some.inj hL'
  have hfive : (9 : Int) = 5 := hsame (cstr "timeout")
  exact absurd hfive (by decide)

end LuaUtils
