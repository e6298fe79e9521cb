import CallCenter.Framework.BoundedPrint

/-! # `db_redis_hgetall`

    The fields of a hash as a JSON object in a buffer of the caller.

    `hgetall_texts` lists the texts of all calls of `snprintf`; together they
    are the object `jsonObject`. -/

namespace DbRedis

open CFormat BoundedPrint

/-- The reply to `HGETALL`; `element[i]->str` for an array. -/
inductive HgetallReply where
  | array (elements : List CStr)
  | other
  deriving DecidableEq, Repr

/-- `"\"%s\":\"%s\""` -/
def jsonField (key value : CStr) : CStr :=
  cstr "\"" ++ key ++ cstr "\":\"" ++ value ++ cstr "\""

/-- The loop over the elements from `i` on, two at a time. -/
def hgetallLoop (resultSize : Int32) : Nat → List CStr → Cursor → Cursor
  | i, key :: value :: rest, c =>
    let c := if i > 0 then c.print resultSize.toInt (cstr ",") else c
    hgetallLoop resultSize (i + 2) rest (c.print resultSize.toInt (jsonField key value))
  -- an element without a partner is left out
  | _, _, c => c

/-- The return code and the calls of `snprintf` on `result_json`.  `connected`
    is the outcome of `db_redis_ensure_connected`, and a lost reply is NULL. -/
def dbRedisHgetall (connected : Bool) (reply : Option HgetallReply) (resultSize : Int32) :
    Int × List Call :=
  if !connected then (-1, [])
  else
    match reply with
    | some (.array elements) =>
      let c := Cursor.start.print resultSize.toInt (cstr "\x7b")
      let c := hgetallLoop resultSize 0 elements c
      (0, (c.print resultSize.toInt (cstr "\x7d")).calls)
    | _ => (-1, [])

/-! ## The object -/

/-- The pairs of a reply. -/
def replyPairs : List CStr → List (CStr × CStr)
  | key :: value :: rest => (key, value) :: replyPairs rest
  | _ => []

/-- The members of the object, with the commas between them. -/
def jsonMembers (pairs : List (CStr × CStr)) : List CStr :=
  (pairs.map fun p => jsonField p.1 p.2).intersperse (cstr ",")

/-- The JSON object of the pairs, in their order. -/
def jsonObject (pairs : List (CStr × CStr)) : CStr :=
  cstr "\x7b" ++ (jsonMembers pairs).flatten ++ cstr "\x7d"

/-- From the second pair on, every member has a comma before it. -/
theorem hgetallLoop_later (resultSize : Int32) {i : Nat} (hi : 0 < i) (elements : List CStr)
    (c : Cursor) :
    hgetallLoop resultSize i elements c = c.printAll resultSize.toInt
      ((replyPairs elements).flatMap fun p => [cstr ",", jsonField p.1 p.2]) := by
  induction elements using replyPairs.induct generalizing i c with
  | case1 key value rest ih =>
    unfold hgetallLoop
    dsimp only
    rw [if_pos hi, ih (by omega)]
    rfl
  | case2 elements hend =>
    match elements, hend with
    | [], _ => rfl
    | [_], _ => rfl
    | key :: value :: rest, hend => exact absurd rfl (hend key value rest)

theorem hgetallLoop_eq (resultSize : Int32) (elements : List CStr) (c : Cursor) :
    hgetallLoop resultSize 0 elements c =
      c.printAll resultSize.toInt (jsonMembers (replyPairs elements)) := by
  match elements with
  | [] => rfl
  | [_] => rfl
  | key :: value :: rest =>
    unfold hgetallLoop
    dsimp only
    rw [if_neg (Nat.lt_irrefl 0), hgetallLoop_later resultSize (by omega), replyPairs, jsonMembers,
      List.map_cons, intersperse_cons, List.flatMap_map]
    rfl

/-- The texts of all calls. -/
theorem dbRedisHgetall_array (elements : List CStr) (resultSize : Int32) :
    dbRedisHgetall true (some (.array elements)) resultSize =
      (0, (Cursor.start.printAll resultSize.toInt
        (cstr "\x7b" :: jsonMembers (replyPairs elements) ++ [cstr "\x7d"])).calls) := by
  rw [List.cons_append, printAll_cons, printAll_append, ← hgetallLoop_eq]
  rfl

theorem jsonObject_eq (pairs : List (CStr × CStr)) :
    jsonObject pairs = (cstr "\x7b" :: jsonMembers pairs).flatten ++ cstr "\x7d" := rfl

/-- The offsets stay inside the buffer exactly if the object without a NUL has
    room in it. -/
theorem hgetall_inside_iff (elements : List CStr) (resultSize : Int32) :
    (∀ call ∈ (dbRedisHgetall true (some (.array elements)) resultSize).2,
      call.Inside resultSize.toInt) ↔
      (jsonObject (replyPairs elements)).length ≤ resultSize.toInt := by
  have hsize := resultSize.toInt_lt
  rw [dbRedisHgetall_array, jsonObject_eq]
  exact inside_closed_iff (by omega) _ rfl

/-- Then the buffer holds the object, without the closing brace if there is no
    room for it and the NUL. -/
theorem hgetall_holds {elements : List CStr} {resultSize : Int32}
    (hfit : (jsonObject (replyPairs elements)).length ≤ resultSize.toInt)
    (mem : Int → UInt8) :
    Holds resultSize.toInt.toNat
      ((dbRedisHgetall true (some (.array elements)) resultSize).2.foldl Call.store mem)
      (jsonObject (replyPairs elements)) := by
  have hsize := resultSize.toInt_lt
  obtain ⟨size, hcast⟩ := Int.eq_ofNat_of_zero_le (a := resultSize.toInt) (by omega)
  rw [dbRedisHgetall_array, hcast, jsonObject_eq]
  rw [hcast, jsonObject_eq] at hfit
  rw [hcast] at hsize
  exact holds_closed (by omega) mem rfl (by omega)

end DbRedis
