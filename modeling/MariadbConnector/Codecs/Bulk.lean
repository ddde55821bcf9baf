import MariadbConnector.Codecs.Types
import MariadbConnector.Parser.Basic

/-! The parameters of `executemany` (`mariadb_codecs.c`): the type each Python value maps to,
the per-column type and sign chosen over all rows by `mariadb_get_parameter_info`, the checks of
`mariadb_check_bulk_parameters`, and the bytes `mariadb_param_to_bind` writes for a row. -/
namespace MariadbConnector

open LittleEndian

/-- `MrdbParamInfo`: the type `mariadb_get_column_info` picks and the bit length of an int. -/
structure ParamInfo where
  type : FieldType
  bits : Nat
  deriving DecidableEq, Repr

/-- `mariadb_get_column_info`, with `none` for an object it has no type for (return code `2`).
The value pointer is `NULL`, the `none` argument, for `None` and for indicators. -/
def getColumnInfo : Option PyValue → Option ParamInfo
  | none => some ⟨.null, 0⟩
  | some v =>
    match v.asPyLong with
    | some i => some ⟨.longlong, numBits i⟩
    | none =>
      match v with
      | .float _ => some ⟨.double, 0⟩
      | .bytes _ => some ⟨.longBlob, 0⟩
      | .date => some ⟨.date, 0⟩
      | .time | .timedelta => some ⟨.time, 0⟩
      | .datetime => some ⟨.datetime, 0⟩
      | .str _ => some ⟨.varString, 0⟩
      | .none => some ⟨.null, 0⟩
      | .decimal _ => some ⟨.newdecimal, 0⟩
      | _ => none

/-- `MrdbParamValue`: the value pointer and the indicator. -/
structure ParamValue where
  value : Option PyValue
  indicator : Nat
  deriving DecidableEq, Repr

/-- A row of the parameter list: a tuple or list, a dict, or another object. -/
inductive Row
  | seq (vs : List PyValue)
  | dict (entries : List (String × PyValue))
  | other
  deriving DecidableEq, Repr

/-- `ListOrTuple_Size`. -/
def Row.size : Row → Nat
  | .seq vs => vs.length
  | _ => 0

/-- The server the cursor talks to: whether it has `MARIADB_CLIENT_STMT_BULK_OPERATIONS` among
its extended capabilities, and `mysql_get_server_info`. -/
structure Server where
  bulkOperations : Bool
  info : String
  deriving DecidableEq, Repr

/-- The parsed statement the checks read: `paramstyle`, `paramcount` and the pyformat keys. -/
structure ParseInfo where
  paramstyle : Paramstyle
  paramcount : Nat
  keys : List String
  deriving DecidableEq, Repr

/-- `mariadb_get_parameter` for column `col` of row `rowNr`: the object from the tuple, or
from the dict under the column's key, turned into a value pointer and an indicator. -/
def getParameter (srv : Server) (pi : ParseInfo) (rowNr col : Nat) (row : Row) :
    Except PyError ParamValue :=
  let column : Except PyError PyValue :=
    if pi.paramstyle ≠ .pyformat then
      match row with
      | .seq vs =>
        match vs[col]? with
        | some v => .ok v
        | none => .error ⟨.programmingError,
            s!"Can't access column number {col + 1} at row {rowNr + 1}"⟩
      | _ => .error ⟨.programmingError,
          s!"Can't access column number {col + 1} at row {rowNr + 1}"⟩
    else
      match row, pi.keys[col]? with
      | .dict es, some key =>
        match es.lookup key with
        | some v => .ok v
        | none => .error ⟨.programmingError, "Can't find key in parameter data"⟩
      | _, _ => .error ⟨.programmingError, "Can't find key in parameter data"⟩
  match column with
  | .error e => .error e
  | .ok (.indicator i) =>
    if srv.bulkOperations then .ok ⟨none, i.code⟩
    else .error ⟨.notSupportedError, s!"MariaDB {srv.info} doesn't support indicator variables. Required version is 10.2.6 or newer"⟩
  -- `None` becomes `STMT_INDICATOR_NULL` where indicators are supported
  | .ok .none => .ok ⟨none, if srv.bulkOperations then 1 else 0⟩
  | .ok v => .ok ⟨some v, 0⟩

/-- The error of a value whose type the column cannot take. -/
def invalidType (rowNr col : Nat) : PyError :=
  ⟨.programmingError, s!"Invalid parameter type at row {rowNr + 1}, column {col + 1}"⟩

/-- The integer `PyLong_AsLongLong` is called on: the value of an int or bool. -/
def ParamValue.asPyLong (pv : ParamValue) : Int :=
  ((pv.value.bind PyValue.asPyLong)).getD 0

/-- The state the row loop of `mariadb_get_parameter_info` carries: `param->buffer_type`,
`param->is_unsigned` and the widest bit length `bits`. -/
structure ColumnState where
  bufferType : FieldType
  isUnsigned : Bool
  bits : Nat
  deriving DecidableEq, Repr

/-- One row of the loop: the row's type merged into the column's, or `break` (`.ok (.inr _)`),
or the error. The overflow probe `tmp == (uint64_t)-1 && PyErr_Occurred` tests the address of
`PyErr_Occurred`, so it holds whenever `PyLong_AsLongLong` returns `-1`. -/
def infoStep (srv : Server) (pi : ParseInfo) (col rowNr : Nat) (row : Row) (st : ColumnState) :
    Except PyError (ColumnState ⊕ ColumnState) :=
  match getParameter srv pi rowNr col row with
  | .error e => .error e
  | .ok pv =>
    match getColumnInfo pv.value with
    | none => if pv.indicator = 0 then .error (invalidType rowNr col) else .ok (.inl st)
    | some pinfo =>
      let st :=
        if pinfo.type = .longlong then
          { st with
            isUnsigned := st.isUnsigned || asLongLong pv.asPyLong == -1
            bits := max st.bits pinfo.bits }
        else st
      if st.bufferType = .decimal ∨ st.bufferType = .null then
        .ok (.inl { st with bufferType := pinfo.type })
      else if st.bufferType ≠ pinfo.type ∧ pinfo.type ≠ .null ∧ pv.indicator = 0 then
        if (st.bufferType = .tiny ∨ st.bufferType = .short ∨ st.bufferType = .long) ∧
            pinfo.type = .longlong then .ok (.inr st)
        else if pinfo.type.isDecimal ∧ st.bufferType.isDecimal then
          .ok (.inr { st with bufferType := .newdecimal })
        else .error (invalidType rowNr col)
      else .ok (.inl st)

/-- The row loop, from row `rowNr` on, until the rows end or a `break`. -/
def infoLoop (srv : Server) (pi : ParseInfo) (col : Nat) :
    Nat → List Row → ColumnState → Except PyError ColumnState
  | _, [], st => .ok st
  | rowNr, row :: rows, st =>
    match infoStep srv pi col rowNr row st with
    | .error e => .error e
    | .ok (.inr st) => .ok st
    | .ok (.inl st) => infoLoop srv pi col (rowNr + 1) rows st

/-- The integer type for a LONGLONG column from the widest bit length and the sign. -/
def narrowType (bits : Nat) (isUnsigned : Bool) : FieldType :=
  if (bits ≤ 8 ∧ isUnsigned) ∨ bits < 8 then .tiny
  else if (bits ≤ 16 ∧ isUnsigned) ∨ bits < 16 then .short
  else if (bits ≤ 32 ∧ isUnsigned) ∨ bits < 32 then .long
  else .longlong

/-- The `MYSQL_BIND` fields the codecs set for a column. -/
structure BindInfo where
  bufferType : FieldType
  isUnsigned : Bool
  deriving DecidableEq, Repr

/-- `mariadb_get_parameter_info` for column `col` over the rows of `executemany`: the loop
from `is_unsigned = 0` and the bind's current type, then the width of a LONGLONG column. -/
def getParameterInfo (srv : Server) (pi : ParseInfo) (rows : List Row) (col : Nat)
    (bind : BindInfo) : Except PyError BindInfo :=
  match infoLoop srv pi col 0 rows ⟨bind.bufferType, false, 0⟩ with
  | .error e => .error e
  | .ok st =>
    .ok ⟨if st.bufferType = .longlong then narrowType st.bits st.isUnsigned else st.bufferType,
      st.isUnsigned⟩

/-- The row checks of `mariadb_check_bulk_parameters`, row `rowNr` on. -/
def checkRows (pi : ParseInfo) : Nat → List Row → Except PyError Unit
  | _, [] => .ok ()
  | rowNr, row :: rows =>
    let isSeq := match row with | .seq _ => true | _ => false
    let isDict := match row with | .dict _ => true | _ => false
    if pi.paramstyle ≠ .pyformat ∧ !isSeq then
      .error ⟨.programmingError, s!"Invalid parameter type in row {rowNr + 1}.  (Row data must be provided as tuple(s))"⟩
    else if pi.paramstyle = .pyformat ∧ !isDict then
      .error ⟨.programmingError, s!"Invalid parameter type in row {rowNr + 1}.  (Row data must be provided as dict)"⟩
    else if pi.paramcount = 0 ∨ (pi.paramstyle ≠ .pyformat ∧ pi.paramcount ≠ row.size) then
      .error ⟨.programmingError, s!"Invalid number of parameters in row {rowNr + 1}"⟩
    else checkRows pi (rowNr + 1) rows

/-- `mariadb_get_parameter_info` for the columns `col` to `paramcount - 1`. -/
def columnInfos (srv : Server) (pi : ParseInfo) (rows : List Row) :
    Nat → List BindInfo → Except PyError (List BindInfo)
  | _, [] => .ok []
  | col, bind :: binds =>
    match getParameterInfo srv pi rows col bind with
    | .error e => .error e
    | .ok b =>
      match columnInfos srv pi rows (col + 1) binds with
      | .error e => .error e
      | .ok bs => .ok (b :: bs)

/-- `mariadb_check_bulk_parameters`: the parameter list is a non-empty sequence of rows of the
right kind and size, then each column gets its type. A cursor that is not prepared starts from
zeroed binds; a prepared one from the binds of its previous execution. -/
def checkBulkParameters (srv : Server) (pi : ParseInfo) (data : Option (List Row))
    (prepared : Option (List BindInfo)) : Except PyError (List BindInfo) :=
  match data with
  | none => .error ⟨.interfaceError, "Data must be passed as sequence (Tuple or List)"⟩
  | some [] => .error ⟨.interfaceError, "Empty parameter list. At least one row must be specified"⟩
  | some rows =>
    match checkRows pi 0 rows with
    | .error e => .error e
    | .ok () =>
      columnInfos srv pi rows 0
        (prepared.getD (List.replicate pi.paramcount ⟨.decimal, false⟩))

/-! ### The bytes written for one row -/

/-- What `mariadb_param_to_bind` leaves in the bind for the server. -/
inductive Sent
  | null
  | indicator (code : Nat)
  /-- An integer buffer of the bind's type, `is_unsigned` and bytes. -/
  | int (type : FieldType) (isUnsigned : Bool) (bytes : List UInt8)
  /-- `PyFloat_AsDouble` of the value. -/
  | double (v : PyValue)
  /-- NEWDECIMAL: the UTF-8 of `str(value)`. -/
  | strOf (v : PyValue)
  /-- VAR_STRING: `PyUnicode_AsUTF8AndSize` of the value. -/
  | utf8 (v : PyValue)
  /-- LONG_BLOB: the bytes of the value. -/
  | blob (v : PyValue)
  /-- DATE, TIME, DATETIME: a `MYSQL_TIME` filled from the value. -/
  | temporal (type : FieldType) (v : PyValue)
  deriving DecidableEq, Repr

/-- The integer branches of `mariadb_param_to_bind` for a `w`-byte type: a non-negative value
through `PyLong_AsUnsignedLong`, setting `is_unsigned` above the signed maximum, a negative
one through `PyLong_AsLong`; both cast to `w` bytes. -/
def storeInt (w : Nat) (isUnsigned : Bool) (v : Int) : List UInt8 × Bool :=
  if 0 ≤ v then
    let n := asUnsignedLong v % 2 ^ (8 * w)
    (encodeInt w n, isUnsigned || decide (2 ^ (8 * w - 1) ≤ n))
  else (encodeInt w (asLongLong v), isUnsigned)

/-- The integer value `mariadb_param_to_bind` converts: an int or bool as it is; for another
object the conversion fails and returns `(unsigned long)-1`. -/
def PyValue.intArg (v : PyValue) : Int := (v.asPyLong).getD (2 ^ 64 - 1)

/-- `mariadb_param_to_bind`: what is sent for one value under the bind's type and sign, with
the bind's `is_unsigned` afterwards; `none` for a type it has no branch for. -/
def paramToBind (bind : BindInfo) (pv : ParamValue) : Option (Sent × BindInfo) :=
  if 0 < pv.indicator then some (.indicator pv.indicator, bind)
  else
    match pv.value with
    | none => some (.null, { bind with bufferType := .null })
    | some v =>
      let intCase (w : Nat) : Option (Sent × BindInfo) :=
        let r := storeInt w bind.isUnsigned v.intArg
        some (.int bind.bufferType r.2 r.1, { bind with isUnsigned := r.2 })
      match bind.bufferType with
      | .tiny => intCase 1
      | .short => intCase 2
      | .long => intCase 4
      | .longlong => intCase 8
      | .double => some (.double v, bind)
      | .longBlob => some (.blob v, bind)
      | .date | .time | .datetime => some (.temporal bind.bufferType v, bind)
      | .newdecimal => some (.strOf v, bind)
      | .varString => some (.utf8 v, bind)
      | .null => some (.null, bind)
      | _ => none

/-- How the server reads an integer buffer: little-endian under the column's type, signed
unless `is_unsigned`. -/
def decodeSent (type : FieldType) (isUnsigned : Bool) (bytes : List UInt8) : Int :=
  let w := match type with | .tiny => 1 | .short => 2 | .long => 4 | _ => 8
  if isUnsigned then leValue (bytes.take w) else toSigned w (leValue (bytes.take w))

/-! ### Columns of one-element rows -/

section Rows

variable (srv : Server) (pi : ParseInfo)

/-- The rows of a one-column parameter list. -/
def singletonRows (vs : List PyValue) : List Row := vs.map fun v => .seq [v]

theorem checkRows_singletonRows (hpi : pi.paramcount = 1) (hstyle : pi.paramstyle ≠ .pyformat)
    (n : Nat) (vs : List PyValue) : checkRows pi n (singletonRows vs) = .ok () := by
  induction vs generalizing n with
  | nil => rfl
  | cons v vs ih =>
    rw [singletonRows, List.map_cons, checkRows]
    simp only [Row.size, List.length_singleton, hpi]
    rw [if_neg (by simp), if_neg (by simp [hstyle]), if_neg (by simp)]
    exact ih (n + 1)

theorem getParameter_singleton (hpi : pi.paramstyle ≠ .pyformat) (rowNr : Nat) (i : Int) :
    getParameter srv pi rowNr 0 (.seq [.int i]) = .ok ⟨some (.int i), 0⟩ := by
  simp [getParameter, hpi]

/-- A LONGLONG column takes int after int, widening `bits` and setting `is_unsigned` on each
`-1` from `PyLong_AsLongLong`. -/
theorem infoLoop_ints (hpi : pi.paramstyle ≠ .pyformat) (vs : List Int) (n : Nat)
    (st : ColumnState) (hst : st.bufferType = .longlong) :
    infoLoop srv pi 0 n (singletonRows (vs.map .int)) st =
      .ok ⟨.longlong, st.isUnsigned || vs.any (fun v => asLongLong v == -1),
        vs.foldl (fun b v => max b (numBits v)) st.bits⟩ := by
  induction vs generalizing n st with
  | nil =>
    obtain ⟨bt, u, b⟩ := st
    simp only at hst
    subst hst
    simp [infoLoop, singletonRows]
  | cons v vs ih =>
    have hstep : infoStep srv pi 0 n (.seq [.int v]) st =
        .ok (.inl ⟨.longlong, st.isUnsigned || asLongLong v == -1, max st.bits (numBits v)⟩) := by
      simp [infoStep, getParameter_singleton srv pi hpi, getColumnInfo, PyValue.asPyLong,
        ParamValue.asPyLong, hst]
    simp only [singletonRows, List.map_cons, infoLoop] at ih ⊢
    rw [hstep]
    dsimp only
    rw [ih (n + 1) _ rfl]
    simp [Bool.or_assoc]

end Rows

theorem foldl_max_numBits_le {k : Nat} (vs : List Int) (hvs : ∀ v ∈ vs, numBits v ≤ k) (b : Nat)
    (hb : b ≤ k) : vs.foldl (fun b v => max b (numBits v)) b ≤ k := by
  induction vs generalizing b with
  | nil => exact hb
  | cons v vs ih =>
    exact ih (fun u hu => hvs u (List.mem_cons_of_mem _ hu)) _
      (max_le hb (hvs v List.mem_cons_self))

/-- A `-1` anywhere in a column of values of at most eight bits makes it TINY UNSIGNED, and each
negative value of the column is then sent as a byte the server reads `256` too high. -/
theorem bulk_minus_one_tiny_unsigned (srv : Server) (vs : List Int)
    (hvs : ∀ v ∈ vs, numBits v ≤ 8) :
    checkBulkParameters srv ⟨.qmark, 1, []⟩ (some (singletonRows ((-1 :: vs).map .int))) none =
        .ok [⟨.tiny, true⟩] ∧
      ∀ v ∈ -1 :: vs, v < 0 → ∃ bytes,
        paramToBind ⟨.tiny, true⟩ ⟨some (.int v), 0⟩ =
          some (.int .tiny true bytes, ⟨.tiny, true⟩) ∧
        decodeSent .tiny true bytes = v + 256 := by
  have hpi : (⟨.qmark, 1, []⟩ : ParseInfo).paramstyle ≠ .pyformat := by decide
  constructor
  · -- the first row sets the type and the sign, the others keep them
    have hfirst : infoStep srv ⟨.qmark, 1, []⟩ 0 0 (.seq [.int (-1)]) ⟨.decimal, false, 0⟩ =
        .ok (.inl ⟨.longlong, true, 1⟩) := by
      simp [infoStep, getParameter_singleton srv _ hpi, getColumnInfo, PyValue.asPyLong,
        ParamValue.asPyLong, asLongLong, numBits]
    have hloop := infoLoop_ints srv ⟨.qmark, 1, []⟩ hpi vs 1 ⟨.longlong, true, 1⟩ rfl
    have hbits := foldl_max_numBits_le vs hvs 1 (by norm_num)
    have hrows := checkRows_singletonRows ⟨.qmark, 1, []⟩ rfl hpi 0 ((-1 :: vs).map PyValue.int)
    simp only [singletonRows, List.map_cons] at hloop hrows ⊢
    simp only [checkBulkParameters, hrows, columnInfos, getParameterInfo, Option.getD_none,
      List.replicate, infoLoop, hfirst]
    rw [hloop]
    simp [narrowType, hbits]
  · intro v hmem hneg
    have hbits : numBits v ≤ 8 := by
      rcases List.mem_cons.mp hmem with rfl | hmem
      · decide
      · exact hvs v hmem
    have hv := natAbs_lt_of_numBits_le hbits
    have hlo : -256 < v := by omega
    have hll : asLongLong v = v := asLongLong_of_mem (by omega) (by omega)
    refine ⟨encodeInt 1 v, ?_, ?_⟩
    · simp [paramToBind, storeInt, PyValue.intArg, PyValue.asPyLong, hll, not_le.mpr hneg]
    · -- the byte holds `v` modulo `256`
      have h := leValue_encodeInt 1 v
      have hmod : v % 2 ^ (8 * 1) = v + 256 := by
        rw [Int.emod_eq_add_self_emod, Int.emod_eq_of_lt (by omega) (by omega)]
        norm_num
      simp only [decodeSent, if_true]
      rw [List.take_of_length_le (by simp)]
      omega

theorem bulk_minus_one_single_row :
    (∀ v ∈ ([] : List Int), numBits v ≤ 8) ∧
      (checkBulkParameters ⟨true, "10.6"⟩ ⟨.qmark, 1, []⟩
          (some (singletonRows ((-1 :: ([] : List Int)).map .int))) none = .ok [⟨.tiny, true⟩] ∧
        ∀ v ∈ -1 :: ([] : List Int), v < 0 → ∃ bytes,
          paramToBind ⟨.tiny, true⟩ ⟨some (.int v), 0⟩ =
            some (.int .tiny true bytes, ⟨.tiny, true⟩) ∧
          decodeSent .tiny true bytes = v + 256) :=
  ⟨by simp, bulk_minus_one_tiny_unsigned ⟨true, "10.6"⟩ [] (by simp)⟩

/-- A float row then a Decimal row promote the column to NEWDECIMAL and `break` the loop: the
list is accepted whatever the rows after hold. -/
theorem bulk_accepts_after_decimal_promotion (srv : Server) (x d : String) (vs : List PyValue) :
    checkBulkParameters srv ⟨.qmark, 1, []⟩ (some (singletonRows (.float x :: .decimal d :: vs)))
      none = .ok [⟨.newdecimal, false⟩] := by
  have hpi : (⟨.qmark, 1, []⟩ : ParseInfo).paramstyle ≠ .pyformat := by decide
  have hrows := checkRows_singletonRows ⟨.qmark, 1, []⟩ rfl hpi 0 (.float x :: .decimal d :: vs)
  -- the float row sets DOUBLE, the Decimal row promotes it and breaks
  have hfloat : infoStep srv ⟨.qmark, 1, []⟩ 0 0 (.seq [.float x]) ⟨.decimal, false, 0⟩ =
      .ok (.inl ⟨.double, false, 0⟩) := by
    simp [infoStep, getParameter, getColumnInfo, PyValue.asPyLong]
  have hdec : infoStep srv ⟨.qmark, 1, []⟩ 0 1 (.seq [.decimal d]) ⟨.double, false, 0⟩ =
      .ok (.inr ⟨.newdecimal, false, 0⟩) := by
    simp [infoStep, getParameter, getColumnInfo, PyValue.asPyLong, FieldType.isDecimal]
  simp only [singletonRows, List.map_cons] at hrows ⊢
  simp only [checkBulkParameters, hrows, columnInfos, getParameterInfo, Option.getD_none,
    List.replicate, infoLoop, hfloat, hdec]
  rfl

end MariadbConnector
