import MariadbConnector.Codecs.Bulk
import MariadbConnector.Codecs.Integer

/-! The parameters of a single `execute()` over the binary protocol (`mariadb_codecs.c`): the
bind `mariadb_get_parameter_info` gives each value when `array_size` is `0`, the checks of
`mariadb_check_execute_parameters`, and the buffers `mariadb_param_update` writes. -/
namespace MariadbConnector

open LittleEndian

/-- `Py_TYPE(obj)->tp_name`. -/
def PyValue.tpName : PyValue → String
  | .none => "NoneType"
  | .indicator _ => "MrdbIndicator"
  | .int _ => "int"
  | .bool _ => "bool"
  | .float _ => "float"
  | .decimal _ => "decimal.Decimal"
  | .str _ => "str"
  | .bytes _ => "bytes"
  | .bytearray _ => "bytearray"
  | .date => "datetime.date"
  | .datetime => "datetime.datetime"
  | .time => "datetime.time"
  | .timedelta => "datetime.timedelta"
  | .dateSubclass typeName => typeName
  | .other typeName _ => typeName

/-- `mariadb_get_parameter_info` for a single `execute()` (`array_size = 0`): `is_unsigned`
cleared, the type of the one value, and a LONGLONG narrowed to the value's bit length. -/
def getParameterInfoSingle (srv : Server) (pi : ParseInfo) (data : Row) (col : Nat) :
    Except PyError BindInfo :=
  match getParameter srv pi 0 col data with
  | .error e => .error e
  | .ok pv =>
    match getColumnInfo pv.value with
    | some pinfo =>
      .ok ⟨if pinfo.type = .longlong then narrowType pinfo.bits false else pinfo.type, false⟩
    | none =>
      -- `mariadb_get_column_info` returned `2`; the value pointer is not `NULL` here
      let name := (pv.value.map PyValue.tpName).getD ""
      .error ⟨.notSupportedError,
        s!"Data type '{name}' in column {col} not supported in MariaDB Connector/Python"⟩

/-- `mariadb_check_execute_parameters`: a statement without placeholders is refused, then each
column in turn gets its bind. -/
def checkExecuteParameters (srv : Server) (pi : ParseInfo) (data : Row) :
    Except PyError (List BindInfo) :=
  if pi.paramcount = 0 then .error ⟨.programmingError, "Invalid number of parameters"⟩
  else (List.range pi.paramcount).mapM (getParameterInfoSingle srv pi data)

/-- `mariadb_param_update` for the row of a single `execute()`: each value fetched again and
written into its bind. `mariadb_param_to_bind` without a branch for the bind's type returns `1`
with no exception set, which Python reports as a `SystemError`. -/
def paramUpdate (srv : Server) (pi : ParseInfo) (data : Row) (binds : List BindInfo) :
    Except PyError (List (Sent × BindInfo)) :=
  binds.zipIdx.mapM fun (b, col) =>
    match getParameter srv pi 0 col data with
    | .error e => .error e
    | .ok pv =>
      match paramToBind b pv with
      | some r => .ok r
      | none => .error ⟨.builtinError, "SystemError"⟩

/-! ### The bind of one integer -/

/-- The integer types a LONGLONG column is narrowed to. -/
def FieldType.IsInt (t : FieldType) : Prop := t ∈ [.tiny, .short, .long, .longlong]

instance (t : FieldType) : Decidable t.IsInt := inferInstanceAs (Decidable (t ∈ _))

theorem FieldType.IsInt.cases {t : FieldType} (ht : t.IsInt) :
    t = .tiny ∨ t = .short ∨ t = .long ∨ t = .longlong := by
  simpa only [FieldType.IsInt, List.mem_cons, List.not_mem_nil, or_false] using ht

theorem getParameterInfoSingle_int {srv : Server} {pi : ParseInfo} {data : Row} {col : Nat}
    {v : PyValue} {i : Int} (hget : getParameter srv pi 0 col data = .ok ⟨some v, 0⟩)
    (hv : v.asPyLong = some i) :
    getParameterInfoSingle srv pi data col = .ok ⟨narrowType (numBits i) false, false⟩ := by
  simp [getParameterInfoSingle, hget, getColumnInfo, hv]

theorem narrowType_signed (b : Nat) :
    narrowType b false =
      if b < 8 then .tiny else if b < 16 then .short else if b < 32 then .long else .longlong := by
  simp [narrowType]

theorem decodeSent_of_isInt {t : FieldType} (ht : t.IsInt) (u : Bool) (bytes : List UInt8) :
    decodeSent t u bytes =
      if u then (leValue (bytes.take (sendWidth t)) : Int)
      else toSigned (sendWidth t) (leValue (bytes.take (sendWidth t))) := by
  rcases ht.cases with rfl | rfl | rfl | rfl <;> rfl

/-- `mariadb_param_to_bind` on an int or bool under an integer type: the `w`-byte buffer and
flag of `storeInt`. -/
theorem paramToBind_isInt {t : FieldType} (ht : t.IsInt) (u : Bool) {v : PyValue} {i : Int}
    (hv : v.asPyLong = some i) :
    paramToBind ⟨t, u⟩ ⟨some v, 0⟩ =
      some (.int t (storeInt (sendWidth t) u i).2 (storeInt (sendWidth t) u i).1,
        ⟨t, (storeInt (sendWidth t) u i).2⟩) := by
  have harg : v.intArg = i := by simp [PyValue.intArg, hv]
  rcases ht.cases with rfl | rfl | rfl | rfl <;> simp [paramToBind, harg, sendWidth]

section Width

variable {w : Nat}

theorem signed_range_le (hw : 0 < w) (hw8 : w ≤ 8) :
    (2 : Int) ^ (8 * w - 1) ≤ 2 ^ 63 ∧ (2 : Int) ^ (8 * w) = 2 * 2 ^ (8 * w - 1) := by
  refine ⟨pow_le_pow_right₀ (by norm_num) (by omega), ?_⟩
  rw [← pow_succ']
  congr 1
  omega

/-- A value in the signed range of the width keeps `is_unsigned` and is written in two's
complement, through either branch. -/
theorem storeInt_of_signed (hw : 0 < w) (hw8 : w ≤ 8) {v : Int} (hlo : -2 ^ (8 * w - 1) ≤ v)
    (hhi : v < 2 ^ (8 * w - 1)) (u : Bool) : storeInt w u v = (encodeInt w v, u) := by
  obtain ⟨h63, hsplit⟩ := signed_range_le hw hw8
  unfold storeInt
  split_ifs with h0
  · -- non-negative: below the signed maximum, so the flag stays
    have hun : asUnsignedLong v = v := asUnsignedLong_of_mem h0 (by omega)
    have hmod : v % 2 ^ (8 * w) = v := Int.emod_eq_of_lt h0 (by omega)
    have hflag : decide (2 ^ (8 * w - 1) ≤ v) = false := decide_eq_false (by omega)
    simp only [hun, hmod, hflag, Bool.or_false]
  · rw [asLongLong_of_mem (by omega) (by omega)]

/-- A LONGLONG buffer for a non-negative value below `2 ^ 64`: its bytes, with `is_unsigned`
set above the signed maximum. -/
theorem storeInt_eight_of_nonneg {v : Int} (h0 : 0 ≤ v) (hv : v < 2 ^ 64) (u : Bool) :
    storeInt 8 u v = (encodeInt 8 v, u || decide (2 ^ 63 ≤ v)) := by
  have hun : asUnsignedLong v = v := asUnsignedLong_of_mem h0 hv
  have hmod : v % 2 ^ (8 * 8) = v := Int.emod_eq_of_lt h0 (by norm_num; omega)
  unfold storeInt
  rw [if_pos h0]
  dsimp only
  rw [hun, hmod]

end Width

theorem bind_of_signed {t : FieldType} (ht : t.IsInt) {v : PyValue} {i : Int}
    (hv : v.asPyLong = some i) (hlo : -2 ^ (8 * sendWidth t - 1) ≤ i)
    (hhi : i < 2 ^ (8 * sendWidth t - 1)) :
    ∃ u bytes, paramToBind ⟨t, false⟩ ⟨some v, 0⟩ = some (.int t u bytes, ⟨t, u⟩) ∧
      bytes.length = sendWidth t ∧ decodeSent t u bytes = i ∧
      (u = true ↔ ¬(-2 ^ (8 * sendWidth t - 1) ≤ i ∧ i < 2 ^ (8 * sendWidth t - 1))) := by
  have hw : 0 < sendWidth t ∧ sendWidth t ≤ 8 := by
    rcases ht.cases with rfl | rfl | rfl | rfl <;> simp [sendWidth]
  have hstore := storeInt_of_signed hw.1 hw.2 hlo hhi false
  refine ⟨false, encodeInt (sendWidth t) i, ?_, length_encodeInt _ _, ?_, ?_⟩
  · rw [paramToBind_isInt ht false hv, hstore]
  · rw [decodeSent_of_isInt ht, if_neg Bool.false_ne_true,
      List.take_of_length_le (by simp), toSigned_encodeInt hw.1 hlo hhi]
  · simp [hlo, hhi]

theorem bind_of_unsigned {v : PyValue} {i : Int} (hv : v.asPyLong = some i) (hlo : 2 ^ 63 ≤ i)
    (hhi : i < 2 ^ 64) :
    ∃ u bytes, paramToBind ⟨.longlong, false⟩ ⟨some v, 0⟩ =
        some (.int .longlong u bytes, ⟨.longlong, u⟩) ∧
      bytes.length = sendWidth .longlong ∧ decodeSent .longlong u bytes = i ∧
      (u = true ↔ ¬(-2 ^ (8 * sendWidth .longlong - 1) ≤ i ∧
        i < 2 ^ (8 * sendWidth .longlong - 1))) := by
  have h0 : 0 ≤ i := le_trans (by norm_num) hlo
  have hflag : decide ((2 : Int) ^ 63 ≤ i) = true := decide_eq_true hlo
  have hstore : storeInt (sendWidth .longlong) false i = (encodeInt 8 i, true) := by
    rw [show sendWidth .longlong = 8 from rfl, storeInt_eight_of_nonneg h0 hhi false, hflag]
    rfl
  refine ⟨true, encodeInt 8 i, ?_, by simp [sendWidth], ?_, ?_⟩
  · rw [paramToBind_isInt (by decide) false hv, hstore]
  · rw [decodeSent_of_isInt (by decide), if_pos rfl, List.take_of_length_le (by simp [sendWidth])]
    exact leValue_encodeInt_of_nonneg h0 (by norm_num; omega)
  · simp [sendWidth]
    omega

/-- **Integers of a single `execute()`.** Every int or bool in `[-2^63, 2^64)` bound by itself
gets an integer type, and its buffer, read at that type's width with the sign the bind says,
is the value. The bind is unsigned exactly when the value leaves the type's signed range. -/
theorem execute_int_binding {srv : Server} {pi : ParseInfo} {data : Row} {col : Nat}
    {v : PyValue} {i : Int} (hget : getParameter srv pi 0 col data = .ok ⟨some v, 0⟩)
    (hv : v.asPyLong = some i) (hlo : -2 ^ 63 ≤ i) (hhi : i < 2 ^ 64) :
    ∃ t u bytes, getParameterInfoSingle srv pi data col = .ok ⟨t, false⟩ ∧ t.IsInt ∧
      paramToBind ⟨t, false⟩ ⟨some v, 0⟩ = some (.int t u bytes, ⟨t, u⟩) ∧
      bytes.length = sendWidth t ∧ decodeSent t u bytes = i ∧
      (u = true ↔ ¬(-2 ^ (8 * sendWidth t - 1) ≤ i ∧ i < 2 ^ (8 * sendWidth t - 1))) := by
  have hinfo := getParameterInfoSingle_int hget hv
  rw [narrowType_signed] at hinfo
  have hbits := natAbs_lt_of_numBits_le (le_refl (numBits i))
  -- one case per width; the first three hold only values of their signed range
  by_cases h8 : numBits i < 8
  · have hi : i.natAbs < 2 ^ 7 := natAbs_lt_of_numBits_le (by omega)
    obtain ⟨u, bytes, hb⟩ := bind_of_signed (t := .tiny) (by decide) hv
      (by simp [sendWidth]; omega) (by simp [sendWidth]; omega)
    exact ⟨.tiny, u, bytes, by rw [hinfo, if_pos h8], by decide, hb⟩
  by_cases h16 : numBits i < 16
  · have hi : i.natAbs < 2 ^ 15 := natAbs_lt_of_numBits_le (by omega)
    obtain ⟨u, bytes, hb⟩ := bind_of_signed (t := .short) (by decide) hv
      (by simp [sendWidth]; omega) (by simp [sendWidth]; omega)
    exact ⟨.short, u, bytes, by rw [hinfo, if_neg h8, if_pos h16], by decide, hb⟩
  by_cases h32 : numBits i < 32
  · have hi : i.natAbs < 2 ^ 31 := natAbs_lt_of_numBits_le (by omega)
    obtain ⟨u, bytes, hb⟩ := bind_of_signed (t := .long) (by decide) hv
      (by simp [sendWidth]; omega) (by simp [sendWidth]; omega)
    exact ⟨.long, u, bytes, by rw [hinfo, if_neg h8, if_neg h16, if_pos h32], by decide, hb⟩
  have hll : getParameterInfoSingle srv pi data col = .ok ⟨.longlong, false⟩ := by
    rw [hinfo, if_neg h8, if_neg h16, if_neg h32]
  -- LONGLONG: a negative value or one below `2 ^ 63` is signed, the rest unsigned
  by_cases hs : i < 2 ^ 63
  · obtain ⟨u, bytes, hb⟩ := bind_of_signed (t := .longlong) (by decide) hv
      (by simp [sendWidth]; omega) (by simp [sendWidth]; omega)
    exact ⟨.longlong, u, bytes, hll, by decide, hb⟩
  · obtain ⟨u, bytes, hb⟩ := bind_of_unsigned hv (by omega) hhi
    exact ⟨.longlong, u, bytes, hll, by decide, hb⟩

theorem execute_int_binding_max :
    getParameter ⟨true, "10.6"⟩ ⟨.qmark, 1, []⟩ 0 0 (.seq [.int (2 ^ 64 - 1)]) =
        .ok ⟨some (.int (2 ^ 64 - 1)), 0⟩ ∧
      PyValue.asPyLong (.int (2 ^ 64 - 1)) = some (2 ^ 64 - 1) ∧
      (-2 ^ 63 : Int) ≤ 2 ^ 64 - 1 ∧ (2 ^ 64 - 1 : Int) < 2 ^ 64 ∧
      ∃ t u bytes, getParameterInfoSingle ⟨true, "10.6"⟩ ⟨.qmark, 1, []⟩ (.seq [.int (2 ^ 64 - 1)]) 0 =
          .ok ⟨t, false⟩ ∧ t.IsInt ∧
        paramToBind ⟨t, false⟩ ⟨some (.int (2 ^ 64 - 1)), 0⟩ = some (.int t u bytes, ⟨t, u⟩) ∧
        bytes.length = sendWidth t ∧ decodeSent t u bytes = 2 ^ 64 - 1 ∧
        (u = true ↔ ¬(-2 ^ (8 * sendWidth t - 1) ≤ (2 ^ 64 - 1 : Int) ∧
          (2 ^ 64 - 1 : Int) < 2 ^ (8 * sendWidth t - 1))) := by
  have hget : getParameter ⟨true, "10.6"⟩ ⟨.qmark, 1, []⟩ 0 0 (.seq [.int (2 ^ 64 - 1)]) =
      .ok ⟨some (.int (2 ^ 64 - 1)), 0⟩ := by
    simp [getParameter]
  exact ⟨hget, rfl, by norm_num, by norm_num, execute_int_binding hget rfl (by norm_num) (by norm_num)⟩

end MariadbConnector
