import MariadbConnector.Codecs.Param

/-! The members `arraysize` (`T_LONG` over the `uint32_t row_array_size`, its upper half over
`paraminfo`) and `insert_id` (`T_UINT` over the `uint64_t lastrow_id`), with the fields kept as
their little-endian bytes. -/

namespace MariadbConnector

open LittleEndian

/-- The bytes of `MrdbCursor` that the members `arraysize` and `insert_id` reach. -/
structure CursorMemory where
  /-- `row_array_size` and then `paraminfo`, from `offsetof(MrdbCursor, row_array_size)`. -/
  arrayBytes : List UInt8
  /-- `lastrow_id`. -/
  lastrowIdBytes : List UInt8
  arrayBytes_length : arrayBytes.length = 12
  lastrowIdBytes_length : lastrowIdBytes.length = 8

namespace CursorMemory

/-- `self->row_array_size`. -/
def rowArraySize (m : CursorMemory) : Nat := leValue (load m.arrayBytes 0 4)

/-- `self->paraminfo`, as an address. -/
def paraminfo (m : CursorMemory) : Nat := leValue (load m.arrayBytes 4 8)

/-- `bytes` stored over `row_array_size` and `paraminfo` from `offset` on. -/
def storeArray (m : CursorMemory) (offset : Nat) (bytes : List UInt8)
    (h : offset + bytes.length ≤ 12) : CursorMemory :=
  ⟨store m.arrayBytes offset bytes, m.lastrowIdBytes,
    by rw [length_store (m.arrayBytes_length ▸ h), m.arrayBytes_length],
    m.lastrowIdBytes_length⟩

/-- `*(long*)addr = v` at the offset of `row_array_size`. -/
def storeLong (m : CursorMemory) (v : Int) : CursorMemory :=
  m.storeArray 0 (encodeInt 8 v) (by simp)

/-- The object `PyType_GenericNew` returns: every byte zero. -/
def alloc : CursorMemory := ⟨List.replicate 12 0, List.replicate 8 0, rfl, rfl⟩

/-- `MrdbCursor_initialize`, the type's `tp_init`, as far as these fields go:
`self->row_array_size= 1`. -/
def tpInit (m : CursorMemory) : CursorMemory := m.storeArray 0 (leBytes 4 1) (by simp)

/-- `self->lastrow_id= CURSOR_INSERT_ID(self)` at the end of an execution, with the id
Connector/C reports. -/
def setLastrowId (m : CursorMemory) (id : Nat) : CursorMemory :=
  ⟨m.arrayBytes, leBytes 8 id, m.arrayBytes_length, length_leBytes 8 id⟩

/-- `MARIADB_FREE_MEM(self->paraminfo)`: the address handed to `PyMem_RawFree` when it is not
`NULL`, and the field set to `NULL`. -/
def freeParaminfo (m : CursorMemory) : Option Nat × CursorMemory :=
  if m.paraminfo ≠ 0 then (some m.paraminfo, m.storeArray 4 (leBytes 8 0) (by simp))
  else (none, m)

/-- `PyMember_GetOne` on `arraysize` (`T_LONG`): `PyLong_FromLong(*(long*)addr)`. -/
def arraysize (m : CursorMemory) : Int := toSigned 8 (leValue (load m.arrayBytes 0 8))

/-- `PyMember_SetOne` on `arraysize` (`T_LONG`): `*(long*)addr = PyLong_AsLong(v)` comes before
the error test, so a value that is not an integer, or is outside `long`, stores `-1` and
raises. -/
def setArraysize (m : CursorMemory) (value : PyValue) : CursorMemory × Except PyError Unit :=
  match value.asPyLong with
  | none => (m.storeLong (-1), .error ⟨.builtinError, "TypeError"⟩)
  | some v =>
    (m.storeLong (asLongLong v),
      if -2 ^ 63 ≤ v ∧ v < 2 ^ 63 then .ok () else .error ⟨.builtinError, "OverflowError"⟩)

/-- `PyMember_GetOne` on `insert_id` (`T_UINT`): `PyLong_FromUnsignedLong(*(unsigned int*)addr)`,
the first four bytes of `lastrow_id`. -/
def insertId (m : CursorMemory) : Nat := leValue (load m.lastrowIdBytes 0 4)

/-- `Cursor.lastrowid`: `insert_id` when it is positive, else `None`. -/
def lastrowid (m : CursorMemory) : Option Nat :=
  if m.insertId > 0 then some m.insertId else none

/-- The error path of the parameter checks: `paraminfo` freed, and the error raised. -/
def failCheck {β : Type} (m : CursorMemory) (e : PyError) :
    Option Nat × CursorMemory × Except PyError β :=
  (m.freeParaminfo.1, m.freeParaminfo.2, .error e)

/-- `mariadb_check_execute_parameters` on the cursor's memory: every error jumps to `error:`. -/
def checkExecuteParameters (m : CursorMemory) (srv : Server) (pi : ParseInfo) (data : Row) :
    Option Nat × CursorMemory × Except PyError (List BindInfo) :=
  match MariadbConnector.checkExecuteParameters srv pi data with
  | .ok binds => (none, m, .ok binds)
  | .error e => m.failCheck e

/-- `mariadb_check_bulk_parameters` on the cursor's memory: the checks of the parameter list and
of its rows return at once, the column types jump to `error:`. -/
def checkBulkParameters (m : CursorMemory) (srv : Server) (pi : ParseInfo)
    (data : Option (List Row)) (prepared : Option (List BindInfo)) :
    Option Nat × CursorMemory × Except PyError (List BindInfo) :=
  match MariadbConnector.checkBulkParameters srv pi data prepared with
  | .ok binds => (none, m, .ok binds)
  | .error e =>
    match data with
    | some (row :: rows) =>
      match checkRows pi 0 (row :: rows) with
      | .ok () => m.failCheck e
      | .error _ => (none, m, .error e)
    | _ => (none, m, .error e)

/-! ### What each store does to the fields -/

variable (m : CursorMemory)

@[simp] theorem storeArray_arrayBytes (offset : Nat) (bytes : List UInt8)
    (h : offset + bytes.length ≤ 12) :
    (m.storeArray offset bytes h).arrayBytes = store m.arrayBytes offset bytes := rfl

@[simp] theorem storeArray_lastrowIdBytes (offset : Nat) (bytes : List UInt8)
    (h : offset + bytes.length ≤ 12) :
    (m.storeArray offset bytes h).lastrowIdBytes = m.lastrowIdBytes := rfl

@[simp] theorem setLastrowId_arrayBytes (id : Nat) :
    (m.setLastrowId id).arrayBytes = m.arrayBytes := rfl

theorem arraysize_eq :
    m.arraysize = toSigned 8 (m.rowArraySize + 2 ^ 32 * (m.paraminfo % 2 ^ 32)) := by
  have hlen := m.arrayBytes_length
  have hlong := leValue_load_add m.arrayBytes 0 4 (by omega) 4
  have hptr := leValue_load_add m.arrayBytes 4 4 (by omega) 4
  have hlt := leValue_load_lt m.arrayBytes 4 4
  norm_num at hlong hptr hlt
  unfold arraysize rowArraySize paraminfo
  rw [hlong]
  congr 2
  omega

theorem leValue_load_paraminfo_high : leValue (load m.arrayBytes 8 4) = m.paraminfo / 2 ^ 32 := by
  have hptr := leValue_load_add m.arrayBytes 4 4 (by rw [m.arrayBytes_length]; omega) 4
  have hlt := leValue_load_lt m.arrayBytes 4 4
  norm_num at hptr hlt
  unfold paraminfo
  omega

theorem rowArraySize_storeLong (v : Int) : ((m.storeLong v).rowArraySize : Int) = v % 2 ^ 32 := by
  have hload := load_store_start m.arrayBytes 0 (encodeInt 8 v) (by omega) 4
  simp only [length_encodeInt, take_encodeInt (show 4 ≤ 8 by omega)] at hload
  rw [rowArraySize, storeLong, storeArray_arrayBytes, hload]
  simp [load, leValue_encodeInt]

theorem paraminfo_storeLong (v : Int) :
    (m.storeLong v).paraminfo = (v % 2 ^ 64).toNat / 2 ^ 32 + 2 ^ 32 * (m.paraminfo / 2 ^ 32) := by
  have hload := load_store m.arrayBytes 0 (encodeInt 8 v) (k := 4) (by omega) (by simp) 8
  simp only [length_encodeInt, Nat.zero_add] at hload
  have hdrop : leValue ((encodeInt 8 v).drop 4) = (v % 2 ^ 64).toNat / 2 ^ 32 := by
    rw [encodeInt, drop_leBytes, leValue_leBytes]
    norm_num
    omega
  rw [paraminfo, storeLong, storeArray_arrayBytes, hload, List.take_of_length_le (by simp),
    leValue_append, hdrop, m.leValue_load_paraminfo_high]
  simp

theorem arraysize_storeLong {v : Int} (hlo : -2 ^ 63 ≤ v) (hhi : v < 2 ^ 63) :
    (m.storeLong v).arraysize = v := by
  have hload := load_store_start m.arrayBytes 0 (encodeInt 8 v) (by omega) 8
  simp only [length_encodeInt, List.take_of_length_le (le_of_eq (length_encodeInt 8 v))] at hload
  rw [arraysize, storeLong, storeArray_arrayBytes, hload]
  simpa [load] using toSigned_encodeInt (w := 8) (by omega) hlo hhi

theorem setArraysize_of_long {value : PyValue} {v : Int} (hv : value.asPyLong = some v)
    (hlo : -2 ^ 63 ≤ v) (hhi : v < 2 ^ 63) : m.setArraysize value = (m.storeLong v, .ok ()) := by
  rw [setArraysize, hv]
  dsimp only
  rw [asLongLong_of_mem hlo hhi, if_pos ⟨hlo, hhi⟩]

theorem paraminfo_tpInit : m.tpInit.paraminfo = m.paraminfo := by
  have hload := load_store m.arrayBytes 0 (leBytes 4 1) (k := 4) (by omega) (by simp) 8
  simp only [length_leBytes, Nat.zero_add] at hload
  rw [paraminfo, tpInit, storeArray_arrayBytes, hload, drop_leBytes]
  simp [leBytes, paraminfo]

theorem freeParaminfo_of_eq_zero (h : m.paraminfo = 0) : m.freeParaminfo = (none, m) := by
  simp [freeParaminfo, h]

/-- `MARIADB_FREE_MEM` hands a non-`NULL` `paraminfo` to `PyMem_RawFree`, then sets it to `NULL`
and leaves `row_array_size` as it is. -/
theorem freeParaminfo_of_ne_zero (h : m.paraminfo ≠ 0) :
    m.freeParaminfo.1 = some m.paraminfo ∧ m.freeParaminfo.2.paraminfo = 0 ∧
      m.freeParaminfo.2.rowArraySize = m.rowArraySize := by
  have hlen := m.arrayBytes_length
  have hptr := load_store_start m.arrayBytes 4 (leBytes 8 0) (by omega) 8
  have hrow := load_store_of_le m.arrayBytes 4 (leBytes 8 0) (o := 0) (w := 4) (by omega) (by omega)
  simp only [freeParaminfo, if_pos h, true_and]
  constructor
  · rw [paraminfo, storeArray_arrayBytes, hptr, take_leBytes le_rfl]
    simp [load, leValue_leBytes]
  · rw [rowArraySize, storeArray_arrayBytes, hrow, rowArraySize]

theorem insertId_setLastrowId (id : Nat) : (m.setLastrowId id).insertId = id % 2 ^ 32 := by
  rw [insertId, setLastrowId, load, List.drop_zero, take_leBytes (by omega), leValue_leBytes]
  norm_num

theorem arraysize_of_paraminfo_eq_zero (h : m.paraminfo = 0) : m.arraysize = m.rowArraySize := by
  have hlt := leValue_load_lt m.arrayBytes 0 4
  rw [arraysize_eq, h, toSigned, if_pos]
  · simp
  · unfold rowArraySize
    omega

theorem checkExecuteParameters_of_error {srv : Server} {pi : ParseInfo} {data : Row} {e : PyError}
    (h : MariadbConnector.checkExecuteParameters srv pi data = .error e) :
    m.checkExecuteParameters srv pi data = m.failCheck e := by
  rw [checkExecuteParameters, h]

theorem checkExecuteParameters_mem (srv : Server) (pi : ParseInfo) (data : Row) :
    ((m.checkExecuteParameters srv pi data).1, (m.checkExecuteParameters srv pi data).2.1) =
        (none, m) ∨
      ((m.checkExecuteParameters srv pi data).1, (m.checkExecuteParameters srv pi data).2.1) =
        m.freeParaminfo := by
  unfold checkExecuteParameters
  split
  · exact .inl rfl
  · exact .inr rfl

theorem checkBulkParameters_mem (srv : Server) (pi : ParseInfo) (data : Option (List Row))
    (prepared : Option (List BindInfo)) :
    ((m.checkBulkParameters srv pi data prepared).1,
          (m.checkBulkParameters srv pi data prepared).2.1) = (none, m) ∨
      ((m.checkBulkParameters srv pi data prepared).1,
          (m.checkBulkParameters srv pi data prepared).2.1) = m.freeParaminfo := by
  unfold checkBulkParameters
  split
  · exact .inl rfl
  · -- only an error of the column types reaches `error:`
    split
    · split
      · exact .inr rfl
      · exact .inl rfl
    · exact .inl rfl

end CursorMemory

/-- What a cursor does to these fields: its initialisation, a store to `arraysize`, the end of an
execution, and the parameter checks of `execute` and `executemany`. -/
inductive MemberCall
  | tpInit
  | setArraysize (value : PyValue)
  | setLastrowId (id : Nat)
  | checkExecuteParameters (srv : Server) (pi : ParseInfo) (data : Row)
  | checkBulkParameters (srv : Server) (pi : ParseInfo) (data : Option (List Row))
      (prepared : Option (List BindInfo))

namespace CursorMemory

/-- One call: the address it frees, if any, and the memory after it. -/
def call (m : CursorMemory) : MemberCall → Option Nat × CursorMemory
  | .tpInit => (none, m.tpInit)
  | .setArraysize value => (none, (m.setArraysize value).1)
  | .setLastrowId id => (none, m.setLastrowId id)
  | .checkExecuteParameters srv pi data =>
    ((m.checkExecuteParameters srv pi data).1, (m.checkExecuteParameters srv pi data).2.1)
  | .checkBulkParameters srv pi data prepared =>
    ((m.checkBulkParameters srv pi data prepared).1,
      (m.checkBulkParameters srv pi data prepared).2.1)

/-- A run of calls: the addresses freed, in order, and the memory after them. -/
def run (m : CursorMemory) : List MemberCall → List Nat × CursorMemory
  | [] => ([], m)
  | c :: cs =>
    let r := run (m.call c).2 cs
    ((m.call c).1.toList ++ r.1, r.2)

variable (m : CursorMemory)

/-- What one call can do: initialise, store to `arraysize`, set `lastrow_id`, leave the memory
alone, or free `paraminfo`. -/
theorem call_cases (c : MemberCall) :
    m.call c = (none, m.tpInit) ∨
      (∃ value, c = .setArraysize value ∧ m.call c = (none, (m.setArraysize value).1)) ∨
      (∃ id, m.call c = (none, m.setLastrowId id)) ∨
      m.call c = (none, m) ∨ m.call c = m.freeParaminfo := by
  cases c with
  | tpInit => exact .inl rfl
  | setArraysize value => exact .inr (.inl ⟨value, rfl, rfl⟩)
  | setLastrowId id => exact .inr (.inr (.inl ⟨id, rfl⟩))
  | checkExecuteParameters srv pi data =>
    rcases m.checkExecuteParameters_mem srv pi data with h | h
    · exact .inr (.inr (.inr (.inl h)))
    · exact .inr (.inr (.inr (.inr h)))
  | checkBulkParameters srv pi data prepared =>
    rcases m.checkBulkParameters_mem srv pi data prepared with h | h
    · exact .inr (.inr (.inr (.inl h)))
    · exact .inr (.inr (.inr (.inr h)))

end CursorMemory

/-- Whether a call stores into `arraysize` only a value of `[0, 2 ^ 32)`, one that fits
`row_array_size`. -/
def MemberCall.storesUint32 : MemberCall → Bool
  | .setArraysize value =>
    match value.asPyLong with
    | some v => decide (0 ≤ v ∧ v < 2 ^ 32)
    | none => false
  | _ => true

theorem MemberCall.storesUint32_setArraysize {value : PyValue}
    (h : (MemberCall.setArraysize value).storesUint32 = true) :
    ∃ v, value.asPyLong = some v ∧ 0 ≤ v ∧ v < 2 ^ 32 := by
  cases hv : value.asPyLong with
  | none => simp [storesUint32, hv] at h
  | some v =>
    simp only [storesUint32, hv, decide_eq_true_eq] at h
    exact ⟨v, rfl, h⟩

namespace CursorMemory

variable (m : CursorMemory)

/-- From a `NULL` `paraminfo`, a call that stores into `arraysize` only a value that fits
`row_array_size` frees nothing and leaves `paraminfo` `NULL`. -/
theorem call_of_paraminfo_eq_zero (hnull : m.paraminfo = 0) {c : MemberCall}
    (hc : c.storesUint32 = true) : (m.call c).1 = none ∧ (m.call c).2.paraminfo = 0 := by
  rcases m.call_cases c with h | ⟨value, rfl, h⟩ | ⟨id, h⟩ | h | h <;> rw [h]
  · exact ⟨rfl, by rw [paraminfo_tpInit, hnull]⟩
  · obtain ⟨v, hv, hlo, hhi⟩ := MemberCall.storesUint32_setArraysize hc
    rw [m.setArraysize_of_long hv (by omega) (by omega)]
    refine ⟨rfl, ?_⟩
    rw [paraminfo_storeLong, hnull]
    omega
  · exact ⟨rfl, hnull⟩
  · exact ⟨rfl, hnull⟩
  · rw [m.freeParaminfo_of_eq_zero hnull]
    exact ⟨rfl, hnull⟩

/-- The run lemma: from a `NULL` `paraminfo`, calls that store into `arraysize` only values that
fit free nothing, and `paraminfo` stays `NULL`. -/
theorem run_of_paraminfo_eq_zero (calls : List MemberCall) (hnull : m.paraminfo = 0)
    (h : ∀ c ∈ calls, c.storesUint32 = true) :
    (m.run calls).1 = [] ∧ (m.run calls).2.paraminfo = 0 := by
  induction calls generalizing m with
  | nil => exact ⟨rfl, hnull⟩
  | cons c cs ih =>
    obtain ⟨hfree, hnull'⟩ := m.call_of_paraminfo_eq_zero hnull (h c List.mem_cons_self)
    obtain ⟨hrest, hend⟩ :=
      ih (m.call c).2 hnull' fun c' hc' => h c' (List.mem_cons_of_mem c hc')
    simp only [run, hfree, Option.toList_none, List.nil_append]
    exact ⟨hrest, hend⟩

theorem paraminfo_alloc : alloc.paraminfo = 0 := rfl

end CursorMemory

/-- **`lastrowid` keeps the low 32 bits of the id.** Whatever the cursor's memory, once an
execution has stored the insert id `id` in `lastrow_id`, `Cursor.lastrowid` reads it through the
`T_UINT` member `insert_id`: it returns `id` modulo `2 ^ 32`, and `None` when that is `0`, so an
AUTO_INCREMENT id of `2 ^ 32` or more comes back wrong, and a multiple of `2 ^ 32` as `None`. -/
theorem lastrowid_low_32_bits (m : CursorMemory) (id : Nat) :
    (m.setLastrowId id).lastrowid = if id % 2 ^ 32 = 0 then none else some (id % 2 ^ 32) := by
  rw [CursorMemory.lastrowid, CursorMemory.insertId_setLastrowId]
  by_cases h : id % 2 ^ 32 = 0
  · rw [if_neg (by omega), if_pos h]
  · rw [if_pos (by omega), if_neg h]

/-- **A store to `arraysize` writes over `paraminfo`.** From a `NULL` `paraminfo`, setting
`cursor.arraysize` to any `v` of `long` succeeds and reads back `v`, but writes the upper half of
`v` over the lower half of `paraminfo`, which is then not `NULL` exactly when `v` is negative or at
least `2 ^ 32`. A parameter check of the next `execute` that fails then hands that address, which
no allocation returned, to `PyMem_RawFree`; and, where that returns, leaves `arraysize` reading
`v` modulo `2 ^ 32`. -/
theorem arraysize_store_clobbers_paraminfo (m : CursorMemory) (hnull : m.paraminfo = 0) {v : Int}
    (hlo : -2 ^ 63 ≤ v) (hhi : v < 2 ^ 63) :
    (m.setArraysize (.int v)).2 = .ok () ∧ (m.setArraysize (.int v)).1.arraysize = v ∧
      ((m.setArraysize (.int v)).1.paraminfo : Int) = v % 2 ^ 64 / 2 ^ 32 ∧
      ((m.setArraysize (.int v)).1.paraminfo ≠ 0 ↔ v < 0 ∨ 2 ^ 32 ≤ v) ∧
      ∀ srv pi data e, checkExecuteParameters srv pi data = .error e →
        ((m.setArraysize (.int v)).1.checkExecuteParameters srv pi data).1 =
            (if v < 0 ∨ 2 ^ 32 ≤ v then some (m.setArraysize (.int v)).1.paraminfo else none) ∧
          ((m.setArraysize (.int v)).1.checkExecuteParameters srv pi data).2.1.arraysize =
            v % 2 ^ 32 := by
  rw [m.setArraysize_of_long (show PyValue.asPyLong (.int v) = some v from rfl) hlo hhi]
  have hp : ((m.storeLong v).paraminfo : Int) = v % 2 ^ 64 / 2 ^ 32 := by
    rw [CursorMemory.paraminfo_storeLong, hnull]
    omega
  have hne : (m.storeLong v).paraminfo ≠ 0 ↔ v < 0 ∨ 2 ^ 32 ≤ v := by
    omega
  refine ⟨rfl, m.arraysize_storeLong hlo hhi, hp, hne, ?_⟩
  intro srv pi data e herr
  rw [CursorMemory.checkExecuteParameters_of_error _ herr, CursorMemory.failCheck]
  by_cases hv : v < 0 ∨ 2 ^ 32 ≤ v
  · -- the clobbered pointer is freed, and `NULL` stored over it
    obtain ⟨hfree, hnull', hrow⟩ := (m.storeLong v).freeParaminfo_of_ne_zero (hne.mpr hv)
    refine ⟨by rw [if_pos hv, hfree], ?_⟩
    rw [CursorMemory.arraysize_of_paraminfo_eq_zero _ hnull', hrow,
      CursorMemory.rowArraySize_storeLong]
  · have hzero : (m.storeLong v).paraminfo = 0 := by
      omega
    rw [if_neg hv, (m.storeLong v).freeParaminfo_of_eq_zero hzero,
      m.arraysize_storeLong hlo hhi]
    exact ⟨rfl, by omega⟩

/-- Setting `arraysize` to `-1` on a new cursor. -/
theorem arraysize_minus_one_clobbers_paraminfo :
    CursorMemory.alloc.tpInit.paraminfo = 0 ∧ -2 ^ 63 ≤ (-1 : Int) ∧ (-1 : Int) < 2 ^ 63 ∧
      ((CursorMemory.alloc.tpInit.setArraysize (.int (-1))).2 = .ok () ∧
        (CursorMemory.alloc.tpInit.setArraysize (.int (-1))).1.arraysize = -1 ∧
        ((CursorMemory.alloc.tpInit.setArraysize (.int (-1))).1.paraminfo : Int) =
          -1 % 2 ^ 64 / 2 ^ 32 ∧
        ((CursorMemory.alloc.tpInit.setArraysize (.int (-1))).1.paraminfo ≠ 0 ↔
          (-1 : Int) < 0 ∨ 2 ^ 32 ≤ (-1 : Int)) ∧
        ∀ srv pi data e, checkExecuteParameters srv pi data = .error e →
          ((CursorMemory.alloc.tpInit.setArraysize (.int (-1))).1.checkExecuteParameters srv pi
                data).1 =
              (if (-1 : Int) < 0 ∨ 2 ^ 32 ≤ (-1 : Int) then
                some (CursorMemory.alloc.tpInit.setArraysize (.int (-1))).1.paraminfo else none) ∧
            ((CursorMemory.alloc.tpInit.setArraysize (.int (-1))).1.checkExecuteParameters srv pi
                data).2.1.arraysize = -1 % 2 ^ 32) :=
  ⟨by rw [CursorMemory.paraminfo_tpInit, CursorMemory.paraminfo_alloc], by norm_num, by norm_num,
    arraysize_store_clobbers_paraminfo _
      (by rw [CursorMemory.paraminfo_tpInit, CursorMemory.paraminfo_alloc]) (by norm_num)
      (by norm_num)⟩

/-- **Stores that fit leave `paraminfo` alone.** On a new cursor, along any run of
initialisation, stores to `arraysize`, executions and parameter checks of `execute` and
`executemany`, in which every value stored to `arraysize` is an integer of `[0, 2 ^ 32)`, no
parameter check frees anything, `paraminfo` stays `NULL`, and `arraysize` reads
`row_array_size`. -/
theorem run_storing_uint32_frees_nothing (calls : List MemberCall)
    (h : ∀ c ∈ calls, c.storesUint32 = true) :
    (CursorMemory.alloc.run calls).1 = [] ∧ (CursorMemory.alloc.run calls).2.paraminfo = 0 ∧
      (CursorMemory.alloc.run calls).2.arraysize =
        (CursorMemory.alloc.run calls).2.rowArraySize := by
  obtain ⟨hfree, hnull⟩ :=
    CursorMemory.alloc.run_of_paraminfo_eq_zero calls CursorMemory.paraminfo_alloc h
  exact ⟨hfree, hnull, CursorMemory.arraysize_of_paraminfo_eq_zero _ hnull⟩

/-- Initialisation, `arraysize = 100`, and an `execute` of `SELECT ?` with an `object()`. -/
theorem run_arraysize_hundred_frees_nothing :
    (∀ c ∈ [MemberCall.tpInit, .setArraysize (.int 100),
        .checkExecuteParameters ⟨false, ""⟩ ⟨.qmark, 1, []⟩ (.seq [.other "object" none])],
        c.storesUint32 = true) ∧
      (CursorMemory.alloc.run [MemberCall.tpInit, .setArraysize (.int 100),
        .checkExecuteParameters ⟨false, ""⟩ ⟨.qmark, 1, []⟩ (.seq [.other "object" none])]).1 = [] ∧
      (CursorMemory.alloc.run [MemberCall.tpInit, .setArraysize (.int 100),
        .checkExecuteParameters ⟨false, ""⟩ ⟨.qmark, 1, []⟩ (.seq [.other "object" none])]).2.paraminfo =
        0 ∧
      (CursorMemory.alloc.run [MemberCall.tpInit, .setArraysize (.int 100),
          .checkExecuteParameters ⟨false, ""⟩ ⟨.qmark, 1, []⟩ (.seq [.other "object" none])]).2.arraysize =
        (CursorMemory.alloc.run [MemberCall.tpInit, .setArraysize (.int 100),
          .checkExecuteParameters ⟨false, ""⟩ ⟨.qmark, 1, []⟩
            (.seq [.other "object" none])]).2.rowArraySize :=
  ⟨by decide, run_storing_uint32_frees_nothing _ (by decide)⟩

end MariadbConnector
