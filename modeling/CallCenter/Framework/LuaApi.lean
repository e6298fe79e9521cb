import Mathlib.Data.List.Basic
import CallCenter.Framework.CFormat

/-! # The Stack of the Lua C API

    A C program reaches an interpreter through a stack of values.  The
    functions here are those of `lua.h` and `lauxlib.h` under their own names:
    each says what it pops and pushes.  What the functions of a script do is
    the parameter `Calls`, on its own state `σ`; `Interp` adds its globals and
    the fields of its tables.  Tables and functions are handles of the types
    `T` and `F`; tables have no metamethods.

    The program may fill the slots up to `limit`; the library does not check
    it.  `State.overruns` counts the values that were written beyond
    (`pushAll_overruns`).

    `State.pcalls` records each protected call, so that it can be compared
    with what was pushed for it.  A call leaves its results in the place of
    the function and its arguments: with a wrong count it is other slots that
    are given up. -/

namespace LuaApi

open CFormat

/-! ## Section 1: Values and the interpreter -/

inductive Value (F T : Type) where
  | nil
  | boolean (b : Bool)
  | integer (i : Int)
  /-- A float, by its bits. -/
  | number (d : BitVec 64)
  | str (s : CStr)
  | table (t : T)
  | function (f : F)
  | userdata
  deriving DecidableEq, Repr

/-- What a function does with its arguments: it returns values or raises one. -/
abbrev Calls (F T σ : Type) : Type :=
  F → List (Value F T) → σ → Except (Value F T) (List (Value F T)) × σ

/-- A script and its conversions of numbers. -/
structure Interp (F T σ : Type) where
  global : σ → CStr → Value F T
  field : σ → T → CStr → Value F T
  call : Calls F T σ
  /-- `lua_tointeger` -/
  tointeger : Value F T → Int
  /-- The text of a float. -/
  numberText : BitVec 64 → CStr

/-- A protected call: the number of arguments and the height of the stack
    that it is made on. -/
structure Pcall where
  nargs : Nat
  height : Nat
  deriving DecidableEq, Repr

/-- `lua_State`; the top of the stack is its head. -/
structure State (F T σ : Type) where
  script : σ
  stack : List (Value F T)
  /-- The slots that may be filled. -/
  limit : Nat
  overruns : Nat
  pcalls : List Pcall

/-- What `luaL_loadfile` finds under a path. -/
inductive ScriptFile (F : Type) where
  /-- No file, or one that does not compile. -/
  | broken (message : CStr)
  | compiles (chunk : F)

variable {F T σ : Type}

def Value.isfunction : Value F T → Bool
  | .function _ => true
  | _ => false

def Value.istable : Value F T → Bool
  | .table _ => true
  | _ => false

/-- `lua_tostring`; NULL is `none`. -/
def Interp.tostring (I : Interp F T σ) : Value F T → Option CStr
  | .str s => some s
  | .integer i => some (longText i)
  | .number d => some (I.numberText d)
  | _ => none

/-- The call of a value; there may be none at all. -/
def callValue (call : Calls F T σ) :
    Option (Value F T) → List (Value F T) → σ → Except (Value F T) (List (Value F T)) × σ
  | some (.function f), args, s => call f args s
  | _, _, s => (.error (.str (cstr "attempt to call a value")), s)

/-- What a call leaves on the stack: as many values as were asked for, or the
    error. -/
def results (nresults : Nat) : Except (Value F T) (List (Value F T)) → List (Value F T)
  | .ok values => (values ++ List.replicate nresults Value.nil).take nresults
  | .error e => [e]

theorem results_length (nresults : Nat) (result : Except (Value F T) (List (Value F T))) :
    (results nresults result).length = if result.isOk then nresults else 1 := by
  cases result with
  | ok values => simp [results, Except.isOk, Except.toBool]
  | error e => rfl

/-! ## Section 2: The functions -/

/-- `LUA_MINSTACK` -/
def luaMinstack : Nat := 20

namespace State

/-- `luaL_newstate` -/
def newstate (script : σ) : State F T σ := ⟨script, [], luaMinstack, 0, []⟩

/-- The value at index -1. -/
def top (L : State F T σ) : Value F T := L.stack.head?.getD .nil

/-- The next slot is written to. -/
def useSlot (L : State F T σ) : State F T σ :=
  { L with overruns := L.overruns + if L.stack.length < L.limit then 0 else 1 }

/-- `lua_push…` -/
def push (L : State F T σ) (v : Value F T) : State F T σ :=
  { L.useSlot with stack := v :: L.stack }

def pushAll (L : State F T σ) (values : List (Value F T)) : State F T σ := values.foldl push L

/-- `lua_pop(L, 1)` -/
def pop (L : State F T σ) : State F T σ := { L with stack := L.stack.tail }

/-- `lua_getglobal` -/
def getglobal (I : Interp F T σ) (L : State F T σ) (name : CStr) : State F T σ :=
  L.push (I.global L.script name)

/-- `lua_getfield(L, -1, name)` -/
def getfield (I : Interp F T σ) (L : State F T σ) (name : CStr) : State F T σ :=
  match L.top with
  | .table t => L.push (I.field L.script t name)
  | _ => L.push .nil

/-- `luaL_loadfile`: it pushes the chunk or the message. -/
def loadfile (L : State F T σ) : ScriptFile F → State F T σ
  | .broken message => L.push (.str message)
  | .compiles chunk => L.push (.function chunk)

/-- `lua_pcall(L, nargs, nresults, 0)`, and whether it returns `LUA_OK`.
    Below the bottom of the stack the library reads whatever is there; here it
    finds nothing to call. -/
def pcall (call : Calls F T σ) (L : State F T σ) (nargs nresults : Nat) : Bool × State F T σ :=
  let called := callValue call L.stack[nargs]? (L.stack.take nargs).reverse L.script
  (called.1.isOk,
    { L with
      script := called.2
      stack := results nresults called.1 ++ L.stack.drop (nargs + 1)
      pcalls := L.pcalls ++ [⟨nargs, L.stack.length⟩] })

/-- There are `k` slots above the stack; none are needed for no values. -/
def HasRoom (L : State F T σ) (k : Nat) : Prop := k = 0 ∨ L.stack.length + k ≤ L.limit

instance (L : State F T σ) (k : Nat) : Decidable (L.HasRoom k) :=
  inferInstanceAs (Decidable (k = 0 ∨ L.stack.length + k ≤ L.limit))

/-! ### What they push and pop -/

variable (I : Interp F T σ) (L : State F T σ)

@[simp] theorem useSlot_stack : L.useSlot.stack = L.stack := rfl

@[simp] theorem useSlot_limit : L.useSlot.limit = L.limit := rfl

theorem useSlot_overruns :
    L.useSlot.overruns = L.overruns + (L.stack.length + 1 - max L.limit L.stack.length) := by
  unfold useSlot
  dsimp only
  split <;> omega

@[simp] theorem push_stack (v : Value F T) : (L.push v).stack = v :: L.stack := rfl

@[simp] theorem push_top (v : Value F T) : (L.push v).top = v := rfl

/-- A value that is popped again has been written. -/
@[simp] theorem pop_push (v : Value F T) : (L.push v).pop = L.useSlot := rfl

@[simp] theorem getglobal_eq (name : CStr) :
    L.getglobal I name = L.push (I.global L.script name) := rfl

/-- `lua_getfield` pushes one value. -/
theorem getfield_eq (name : CStr) : ∃ v, L.getfield I name = L.push v := by
  unfold getfield
  split
  · exact ⟨_, rfl⟩
  · exact ⟨_, rfl⟩

@[simp] theorem pop_getfield (name : CStr) : (L.getfield I name).pop = L.useSlot := by
  obtain ⟨v, hv⟩ := getfield_eq I L name
  rw [hv, pop_push]

theorem getfield_table {t : T} (htop : L.top = .table t) (name : CStr) :
    L.getfield I name = L.push (I.field L.script t name) := by
  unfold getfield
  rw [htop]

/-! ### Several values -/

variable (values : List (Value F T))

theorem pushAll_cons (v : Value F T) : L.pushAll (v :: values) = (L.push v).pushAll values := rfl

@[simp] theorem pushAll_script : (L.pushAll values).script = L.script := by
  induction values generalizing L with
  | nil => rfl
  | cons v values ih => exact ih (L.push v)

@[simp] theorem pushAll_pcalls : (L.pushAll values).pcalls = L.pcalls := by
  induction values generalizing L with
  | nil => rfl
  | cons v values ih => exact ih (L.push v)

@[simp] theorem pushAll_limit : (L.pushAll values).limit = L.limit := by
  induction values generalizing L with
  | nil => rfl
  | cons v values ih => exact ih (L.push v)

@[simp] theorem pushAll_stack : (L.pushAll values).stack = values.reverse ++ L.stack := by
  induction values generalizing L with
  | nil => rfl
  | cons v values ih =>
    rw [pushAll_cons, ih, push_stack, List.reverse_cons, List.append_assoc]
    rfl

/-- The values for which there was no slot. -/
theorem pushAll_overruns :
    (L.pushAll values).overruns =
      L.overruns + (L.stack.length + values.length - max L.limit L.stack.length) := by
  induction values generalizing L with
  | nil =>
    show L.overruns = _
    rw [List.length_nil]
    omega
  | cons v values ih =>
    have hpush : (L.push v).overruns =
        L.overruns + (L.stack.length + 1 - max L.limit L.stack.length) := useSlot_overruns L
    have hlimit : (L.push v).limit = L.limit := rfl
    rw [pushAll_cons, ih, hpush, hlimit, push_stack, List.length_cons, List.length_cons]
    omega

/-- The call of a function with the values that were pushed on it. -/
theorem pcall_pushAll (call : Calls F T σ) (f : Value F T) (nresults : Nat) :
    (L.pushAll (f :: values)).pcall call values.length nresults =
      ((callValue call (some f) values L.script).1.isOk,
        { L.pushAll (f :: values) with
          script := (callValue call (some f) values L.script).2
          stack := results nresults (callValue call (some f) values L.script).1 ++ L.stack
          pcalls := L.pcalls ++ [⟨values.length, L.stack.length + 1 + values.length⟩] }) := by
  have hstack : (L.pushAll (f :: values)).stack = values.reverse ++ f :: L.stack := by simp
  have hfun : (L.pushAll (f :: values)).stack[values.length]? = some f := by
    rw [hstack, List.getElem?_append_right (by simp)]
    simp
  have hargs : ((L.pushAll (f :: values)).stack.take values.length).reverse = values := by
    rw [hstack, List.take_append_of_le_length (by simp), List.take_of_length_le (by simp),
      List.reverse_reverse]
  have hbelow : (L.pushAll (f :: values)).stack.drop (values.length + 1) = L.stack := by
    rw [hstack, ← List.drop_drop, List.drop_left' (by simp)]
    rfl
  have hheight : (L.pushAll (f :: values)).stack.length = L.stack.length + 1 + values.length := by
    rw [hstack, List.length_append, List.length_reverse, List.length_cons]
    omega
  unfold pcall
  rw [hfun, hargs, hbelow, hheight, pushAll_script, pushAll_pcalls]

end State

end LuaApi
