import CallCenter.Framework.CMemory

/-! # Calling the Routing Script

    `lua_vm_call_route` of `lua_utils.c`.  The script is a function on its
    own state `σ`; what it does is the subject of `Route`.  Here is what the
    C side makes of its answer: a protected call, four fields of a table,
    and copies into the arrays of `route_response_t`. -/

namespace LuaUtils

open CFormat CMemory

/-- `MAX_EXTENSION_LEN` -/
def maxExtensionLen : Nat := 16

/-- `MAX_DEPT_NAME_LEN` -/
def maxDeptNameLen : Nat := 64

/-- `MAX_ROUTE_DESC_LEN` -/
def maxRouteDescLen : Nat := 128

/-- `route_result_t` -/
inductive RouteResult where
  | success
  | invalidDigits
  | deptFull
  | agentOffline
  | fallbackAgent
  | queued
  | nightMode
  | voicemail
  | timeoutRetry
  | invalidKeyRetry
  | error
  deriving DecidableEq, Repr

/-- The values of the enumeration. -/
def RouteResult.code : RouteResult → Int
  | .success => 0
  | .invalidDigits => 1
  | .deptFull => 2
  | .agentOffline => 3
  | .fallbackAgent => 4
  | .queued => 5
  | .nightMode => 6
  | .voicemail => 7
  | .timeoutRetry => 8
  | .invalidKeyRetry => 9
  | .error => 99

/-- `route_response_t`; the arrays are zeroed before they are written. -/
structure RouteResponse where
  code : Int32
  targetExtension : CStr
  department : CStr
  description : CStr
  deriving DecidableEq, Repr

/-- `memset(response, 0, sizeof(route_response_t))` -/
def RouteResponse.zero : RouteResponse := ⟨0, [], [], []⟩

/-- A field that is no integer or no string is `none`. -/
structure ResponseTable where
  code : Option Int
  target : Option CStr
  department : Option CStr
  description : Option CStr
  deriving DecidableEq, Repr

/-- How a protected call ends. -/
inductive CallResult where
  | raised
  | table (t : ResponseTable)
  /-- A value that is not a table. -/
  | other
  deriving DecidableEq, Repr

/-- A global function of two strings over the state of the script. -/
abbrev ScriptFunction (σ : Type) : Type := CStr → CStr → σ → CallResult × σ

/-- `if (s) strncpy(dst, s, cap - 1)` into a zeroed array. -/
def strncpyField (cap : Nat) (s : Option CStr) : CStr :=
  match s with
  | some s => (text s).take (cap - 1)
  | none => []

/-- The four `lua_getfield`. -/
def readResponse (t : ResponseTable) : RouteResponse where
  code := Int32.ofInt (t.code.getD 0)
  targetExtension := strncpyField maxExtensionLen t.target
  department := strncpyField maxDeptNameLen t.department
  description := strncpyField maxRouteDescLen t.description

variable {σ : Type}

/-- `lua_vm_call_route`: the return value, the response and the state of the
    script.  `routeCall` is `none` when the global is not a function. -/
def luaVmCallRoute (routeCall : Option (ScriptFunction σ)) (callerId : Option CStr) (digits : CStr)
    (s : σ) : Int32 × RouteResponse × σ :=
  match routeCall with
  | none => (-1, .zero, s)
  | some f =>
    match f (callerId.getD []) digits s with
    | (.table t, s') => ((readResponse t).code, readResponse t, s')
    | (_, s') => (-1, { RouteResponse.zero with code := Int32.ofInt RouteResult.error.code }, s')

end LuaUtils
