import CallCenter.Route.CallLog
import CallCenter.Route.Interfaces

/-! # The Auxiliary Interfaces

    The tenth part of `route.lua`: what C asks of the script besides routing.
    None of it changes a table.

    `get_ivr_menu` collects the menu in the order of `pairs`, which is not
    specified, and sorts it.  The menu is the same in any case, and its keys
    are those of `IVR_MAP` (`getIvrMenu_iff`). -/

namespace Route

open CFormat Lua Script

/-! ## Section 1: The interfaces -/

/-- `queue_pop`; no function of the script calls it. -/
def queuePop (deptId : CStr) : RouteM (Option QueueEntry) := do
  let t ← getTables
  match (t.queue deptId).getD [] with
  | [] => return none
  | entry :: rest =>
    modifyTables fun t => t.setQueue deptId rest
    return some entry

/-- `get_ivr_prompt` -/
def getIvrPrompt : CStr :=
  cstr "欢迎致电XX企业服务热线，按键选择对应服务：" ++
    cstr "1-销售咨询，2-售后服务，3-市场合作，0-人工客服，" ++
      cstr "其他按键返回首页，全天候人工服务为您保驾护航。"

structure DepartmentInfo where
  key : CStr
  short : CStr
  name : CStr
  rangeStart : Nat
  rangeEnd : Nat
  external : Bool
  ivrKey : Option CStr
  size : Nat
  idleAgents : Nat
  deriving DecidableEq, Repr

/-- `get_department_info` -/
def getDepartmentInfo (deptKey : CStr) : RouteM (Option DepartmentInfo) := do
  let t ← getTables
  return (department deptKey).map fun dept =>
    ⟨deptKey, dept.short, dept.name, dept.rangeStart, dept.rangeEnd, dept.external, dept.ivrKey,
      dept.rangeEnd - dept.rangeStart + 1, countIdleAgents t.agents deptKey⟩

structure MenuItem where
  key : CStr
  name : CStr
  dept : CStr
  deriving DecidableEq, Repr

/-- The entry of a department that callers from outside can choose. -/
def menuItem (d : CStr × Department) : Option MenuItem :=
  if d.2.external then d.2.ivrKey.map fun key => ⟨key, d.2.name, d.1⟩ else none

/-- `get_ivr_menu`; `pairs` visits the departments in the order of `visited`. -/
def getIvrMenu (visited : List (CStr × Department)) (sort : List MenuItem → List MenuItem) :
    List MenuItem :=
  sort (visited.filterMap menuItem)

structure WorkTimeStatus where
  isWorkTime : Bool
  timeDesc : CStr
  currentHour : Nat
  currentMinute : Nat
  workStart : CStr
  workEnd : CStr
  deriving DecidableEq, Repr

/-- `%02d` of a Lua integer -/
def paddedText (n : Int) : CStr := if 0 ≤ n ∧ n < 10 then 48 :: longText n else longText n

/-- `string.format("%02d:%02d", hour, minute)`; `none` is its error, for nil or
    for a number that is no integer. -/
def hoursText (hour minute : Option LuaNumber) : Option CStr := do
  let hour ← (← hour).toInteger?
  let minute ← (← minute).toInteger?
  return paddedText hour ++ cstr ":" ++ paddedText minute

/-- `get_work_time_status`; `none` is an error of `string.format`. -/
def getWorkTimeStatus (p : Platform) : RouteM (Option WorkTimeStatus) := do
  -- the clock is read three times
  let now ← osDate p
  let work ← isWorkTime p
  let desc ← getTimeDescription p
  let t ← getTables
  let hours := t.config.workHours
  return do
    let workStart ← hoursText hours.startHour hours.startMinute
    let workEnd ← hoursText hours.endHour hours.endMinute
    return ⟨work, desc, now.hour, now.min, workStart, workEnd⟩

/-- The fields that `get_route_config` shows. -/
structure RouteConfigView where
  ivrTimeout : LuaNumber
  externalGateway : CStr
  fallbackAgent : CStr
  maxInvalidKeys : LuaNumber
  maxQueueSize : LuaNumber
  queueTimeout : LuaNumber
  workHours : WorkHours
  nightDutyDept : CStr

/-- `get_route_config` -/
def getRouteConfig : RouteM RouteConfigView := do
  let t ← getTables
  let config := t.config
  return ⟨config.ivrTimeout, config.externalGateway, config.fallbackAgent, config.maxInvalidKeys,
    config.maxQueueSize, config.queueTimeout, config.workHours, config.nightDutyDept⟩

structure QueueStatus where
  size : Nat
  max : LuaNumber

/-- `get_queue_status` -/
def getQueueStatus : RouteM (CStr → Option QueueStatus) := do
  let t ← getTables
  return fun deptId => (t.queue deptId).map fun q => ⟨q.length, t.config.maxQueueSize⟩

/-! ## Section 2: The menu -/

/-- What `table.sort` makes of the menu; keys are compared byte by byte. -/
structure SortsMenu (sort : List MenuItem → List MenuItem) : Prop where
  perm : ∀ items, (sort items).Perm items
  sorted : ∀ items, (sort items).Pairwise fun a b => ¬ b.key < a.key

/-- The menu, by keys. -/
def ivrMenu : List MenuItem :=
  [⟨cstr "0", cstr "人工服务台", cstr "support"⟩, ⟨cstr "1", cstr "销售部", cstr "sales"⟩,
    ⟨cstr "2", cstr "售后服务部", cstr "service"⟩, ⟨cstr "3", cstr "市场部", cstr "market"⟩]

theorem ivrMenu_perm : (departments.filterMap menuItem).Perm ivrMenu := by decide

/-- The menu is the same in whatever order the departments are visited
    and however the sort works. -/
theorem getIvrMenu_eq {visited : List (CStr × Department)} (hvisited : visited.Perm departments)
    {sort : List MenuItem → List MenuItem} (hsort : SortsMenu sort) :
    getIvrMenu visited sort = ivrMenu := by
  have hperm : (getIvrMenu visited sort).Perm ivrMenu :=
    (hsort.perm _).trans ((hvisited.filterMap menuItem).trans ivrMenu_perm)
  have hsorted : ivrMenu.Pairwise fun a b => ¬ b.key < a.key := by decide
  have hanti : ∀ a ∈ ivrMenu, ∀ b ∈ ivrMenu, ¬ b.key < a.key → ¬ a.key < b.key → a = b := by
    decide
  apply List.Perm.eq_of_pairwise ?_ (hsort.sorted _) hsorted hperm
  intro a b ha hb
  exact hanti a (hperm.mem_iff.mp ha) b hb

/-- A key is in the menu exactly if `IVR_MAP` has it, for the same department. -/
theorem mem_ivrMenu {key deptKey : CStr} :
    (∃ item ∈ ivrMenu, item.key = key ∧ item.dept = deptKey) ↔ ivrMap key = some deptKey := by
  unfold ivrMap
  constructor
  · rintro ⟨item, hitem, rfl, rfl⟩
    have hall : ∀ item ∈ ivrMenu,
        (departments.find? fun d => d.2.ivrKey = some item.key).map Prod.fst = some item.dept := by
      decide
    exact hall item hitem
  · intro h
    obtain ⟨d, hd, rfl⟩ := Option.map_eq_some_iff.mp h
    have hkey := List.find?_some hd
    simp only [decide_eq_true_eq] at hkey
    have hall : ∀ d ∈ departments, ∀ key ∈ d.2.ivrKey,
        ∃ item ∈ ivrMenu, item.key = key ∧ item.dept = d.1 := by decide
    exact hall d (List.mem_of_find?_eq_some hd) key hkey

/-- **The menu** that callers hear is that of `IVR_MAP`, by ascending keys,
    each key once. -/
theorem getIvrMenu_iff {visited : List (CStr × Department)} (hvisited : visited.Perm departments)
    {sort : List MenuItem → List MenuItem} (hsort : SortsMenu sort) :
    ((getIvrMenu visited sort).Pairwise fun a b => a.key < b.key) ∧
      ∀ key deptKey, (∃ item ∈ getIvrMenu visited sort, item.key = key ∧ item.dept = deptKey) ↔
        ivrMap key = some deptKey := by
  rw [getIvrMenu_eq hvisited hsort]
  have hsorted : ivrMenu.Pairwise fun a b => a.key < b.key := by decide
  exact ⟨hsorted, fun key deptKey => mem_ivrMenu⟩

/-- The menu of the departments as they are declared. -/
theorem getIvrMenu_declared :
    (getIvrMenu departments fun items => items.mergeSort fun a b => a.key ≤ b.key).Pairwise
      fun a b => a.key < b.key := by
  have hsort : SortsMenu fun items => items.mergeSort fun a b => a.key ≤ b.key := by
    constructor
    · intro items
      exact List.mergeSort_perm items _
    · intro items
      apply (List.pairwise_mergeSort _ _ items).imp
      · intro a b hab
        simpa using hab
      · intro a b c hab hbc
        simp only [decide_eq_true_eq] at hab hbc ⊢
        exact List.le_trans hab hbc
      · intro a b
        simp only [Bool.or_eq_true, decide_eq_true_eq]
        exact List.le_total _ _
  exact (getIvrMenu_iff (List.Perm.refl _) hsort).1

end Route
