import CallCenter.DbRedis.Client

/-! # The Argument Vector of `HMSET`

    `db_redis_hmset` allocates two arrays of `argc` entries and fills them in
    a loop.  `hmsetVector` is this code, entry by entry; `hmsetVector_eq`
    says what it leaves in the arrays, and that `hmsetArgv`, which
    `dbRedisHmset` sends, is the first of them.

    The size of the arrays is one more than the loop fills, so that the
    vector is never the one intended (`hmset_vector_not_exact`). -/

namespace DbRedis

open CFormat

/-! ## Section 1: The arrays -/

/-- `argv` and `argvlen`; an entry that has not been assigned is `none`. -/
structure ArgVector where
  argv : List (Option CStr)
  argvlen : List (Option Nat)
  deriving DecidableEq, Repr

/-- The two calls of `malloc`. -/
def ArgVector.malloc (argc : Nat) : ArgVector where
  argv := List.replicate argc none
  argvlen := List.replicate argc none

/-- `argv[i] = s; argvlen[i] = strlen(s);` -/
def ArgVector.assign (v : ArgVector) (i : Nat) (s : CStr) : ArgVector where
  argv := v.argv.set i (some s)
  argvlen := v.argvlen.set i (some s.length)

/-- `argc` -/
def hmsetArgc (count : Nat) : Nat := 3 + count * 2

/-- The loop over the fields and values, from index `i`. -/
def fillPairs : Nat → List (CStr × CStr) → ArgVector → ArgVector
  | _, [], v => v
  | i, (field, value) :: rest, v =>
    fillPairs (i + 1) rest ((v.assign (2 + i * 2) field).assign (2 + i * 2 + 1) value)

/-- The vector that is passed to `redisCommandArgv`. -/
def hmsetVector (key : CStr) (fields : List (CStr × CStr)) : ArgVector :=
  fillPairs 0 fields
    (((ArgVector.malloc (hmsetArgc fields.length)).assign 0 (cstr "HMSET")).assign 1 key)

/-! ## Section 2: What the loop leaves behind -/

/-- The arrays whose assigned entries are `args`, with `free` entries left. -/
def ArgVector.filled (args : List CStr) (free : Nat) : ArgVector where
  argv := args.map some ++ List.replicate free none
  argvlen := args.map (fun s => some s.length) ++ List.replicate free none

/-- The next free entry is assigned. -/
theorem assign_filled (args : List CStr) (free : Nat) (s : CStr) :
    (ArgVector.filled args (free + 1)).assign args.length s =
      ArgVector.filled (args ++ [s]) free := by
  simp [ArgVector.assign, ArgVector.filled, List.set_append_right, List.replicate_succ]

/-- The fields and values in the order of the loop. -/
def pairArgs (fields : List (CStr × CStr)) : List CStr := fields.flatMap fun p => [p.1, p.2]

theorem fillPairs_filled (fields : List (CStr × CStr)) {i : Nat} {args : List CStr}
    (hargs : args.length = 2 + i * 2) (free : Nat) :
    fillPairs i fields (ArgVector.filled args (fields.length * 2 + free)) =
      ArgVector.filled (args ++ pairArgs fields) free := by
  induction fields generalizing i args with
  | nil => simp [fillPairs, pairArgs]
  | cons p rest ih =>
    obtain ⟨field, value⟩ := p
    have hfree : (rest.length + 1) * 2 + free = rest.length * 2 + free + 1 + 1 := by omega
    have hnext : 2 + i * 2 + 1 = (args ++ [field]).length := by
      rw [List.length_append, hargs, List.length_singleton]
    rw [fillPairs, List.length_cons, hfree, ← hargs, assign_filled, hargs, hnext, assign_filled,
      ih (by simp; omega)]
    simp [pairArgs]

/-- **The filled vector**: all arguments in order, and one entry more that
    nobody assigns. -/
theorem hmsetVector_eq (key : CStr) (fields : List (CStr × CStr)) :
    hmsetVector key fields = ArgVector.filled (cstr "HMSET" :: key :: pairArgs fields) 1 := by
  have hstart : ArgVector.malloc (hmsetArgc fields.length) =
      ArgVector.filled [] (fields.length * 2 + 1 + 1 + 1) := by
    have hargc : hmsetArgc fields.length = fields.length * 2 + 1 + 1 + 1 := by
      rw [hmsetArgc]
      omega
    rw [hargc]
    rfl
  have hcommand := assign_filled [] (fields.length * 2 + 1 + 1) (cstr "HMSET")
  have hkey := assign_filled [cstr "HMSET"] (fields.length * 2 + 1) key
  rw [List.length_nil] at hcommand
  rw [List.length_singleton] at hkey
  rw [hmsetVector, hstart, hcommand, List.nil_append, hkey]
  exact fillPairs_filled fields rfl 1

/-- The vector is the one that `dbRedisHmset` sends. -/
theorem argv_hmsetVector (key : CStr) (fields : List (CStr × CStr)) :
    (hmsetVector key fields).argv = hmsetArgv key fields := by
  have hpairs : (pairArgs fields).map some = fields.flatMap fun p => [some p.1, some p.2] := by
    simp [pairArgs, List.map_flatMap]
  rw [hmsetVector_eq, ArgVector.filled, List.map_cons, List.map_cons, hpairs]
  rfl

/-! ## Section 3: The intended vector -/

/-- `HMSET key field1 value1 … fieldN valueN` and nothing else, every entry
    of both arrays assigned. -/
structure HmsetExact (key : CStr) (fields : List (CStr × CStr)) (v : ArgVector) : Prop where
  argc : v.argv.length = 2 + 2 * fields.length
  args : v.argv = (cstr "HMSET" :: key :: pairArgs fields).map some
  assigned : ∀ i < v.argv.length,
    ∃ s, v.argv[i]? = some (some s) ∧ v.argvlen[i]? = some (some s.length)

theorem length_pairArgs (fields : List (CStr × CStr)) :
    (pairArgs fields).length = 2 * fields.length := by
  simp [pairArgs, List.length_flatMap]
  omega

/-- `argc` counts one entry too many, whatever the key, fields and values are. -/
theorem hmset_vector_not_exact (key : CStr) (fields : List (CStr × CStr)) :
    ¬ HmsetExact key fields (hmsetVector key fields) := by
  intro h
  have hargc := h.argc
  rw [hmsetVector_eq] at hargc
  simp [ArgVector.filled, length_pairArgs] at hargc
  omega

/-- One field: five entries instead of four. -/
theorem hmset_vector_one_field :
    ¬ HmsetExact (cstr "k") [(cstr "f", cstr "v")]
      (hmsetVector (cstr "k") [(cstr "f", cstr "v")]) := by
  intro h
  exact absurd h.argc (by decide)

end DbRedis
