import MariadbConnector.Cursor.Execute
import MariadbConnector.Codecs.Param

/-! The binary protocol of a single `execute()`: `MrdbCursor_execute_binary` with
`mariadb_check_execute_parameters` and `mariadb_param_update`. -/

namespace MariadbConnector

/-- `MrdbCursor_execute_binary` before it runs the statement: the binds of the data checked, then
each value written into its bind. -/
def executeBinaryParams (srv : Server) (pi : MrdbParseInfo) (data : Row) :
    Except PyError Unit :=
  match checkExecuteParameters srv pi.toParseInfo data with
  | .error e => .error e
  | .ok binds =>
    match paramUpdate srv pi.toParseInfo data binds with
    | .error e => .error e
    | .ok _ => .ok ()

/-! ### Which values the encoder takes -/

/-- The exact classes `mariadb_get_column_info` has a type for: `int`, `bool`, `float`,
`bytes`, `str`, `decimal.Decimal`, `None`, and the exact `date`, `datetime`, `time` and
`timedelta`. -/
def PyValue.Encodable : PyValue → Prop
  | .bytearray _ | .dateSubclass _ | .other _ _ | .indicator _ => False
  | _ => True

instance (v : PyValue) : Decidable v.Encodable := by
  cases v <;> simp only [PyValue.Encodable] <;> infer_instance

/-- **Values routed to the binary protocol that it refuses.** `SELECT ?` with a `bytearray`,
or with a `date` subclass such as `pandas.Timestamp`, is sent to the binary protocol by
`_check_text_types`, whose encoder then raises `NotSupportedError`; the same values as `bytes`
and as an exact `datetime` are bound and run. -/
theorem execute_binary_unsupported :
    (Cursor.fresh.execute 100000 ⟨false, false⟩ id (fun _ => "")
        (executeBinaryParams ⟨true, "10.6"⟩) [83, 69, 76, 69, 67, 84, 32, 63]
        (some (.seq [.bytearray [120]]))).2 =
      .error ⟨.notSupportedError,
        "Data type 'bytearray' in column 0 not supported in MariaDB Connector/Python"⟩ ∧
    (Cursor.fresh.execute 100000 ⟨false, false⟩ id (fun _ => "")
        (executeBinaryParams ⟨true, "10.6"⟩) [83, 69, 76, 69, 67, 84, 32, 63]
        (some (.seq [.dateSubclass "Timestamp"]))).2 =
      .error ⟨.notSupportedError,
        "Data type 'Timestamp' in column 0 not supported in MariaDB Connector/Python"⟩ ∧
    (Cursor.fresh.execute 100000 ⟨false, false⟩ id (fun _ => "")
        (executeBinaryParams ⟨true, "10.6"⟩) [83, 69, 76, 69, 67, 84, 32, 63]
        (some (.seq [.bytes [120]]))).2 =
      .ok (.execute (some [83, 69, 76, 69, 67, 84, 32, 63])) ∧
    (Cursor.fresh.execute 100000 ⟨false, false⟩ id (fun _ => "")
        (executeBinaryParams ⟨true, "10.6"⟩) [83, 69, 76, 69, 67, 84, 32, 63]
        (some (.seq [.datetime]))).2 =
      .ok (.execute (some [83, 69, 76, 69, 67, 84, 32, 63])) := by
  decide

/-! ### The command and the protocol -/

/-- **A leading space changes the protocol.** `CALL p(?)` is parsed as `SQL_CALL` and runs
binary with its parameter, while ` CALL p(?)` is parsed as `SQL_OTHER`, marked text, and has its
parameter substituted into a query. -/
theorem execute_leading_space_protocol :
    -- CALL p(?)
    (mrdbCursorParse 100000 [67, 65, 76, 76, 32, 112, 40, 63, 41]).map
        (fun pi => (pi.command, pi.isText)) = .ok (.sqlCall, false) ∧
    -- ␣CALL p(?)
    (mrdbCursorParse 100000 [32, 67, 65, 76, 76, 32, 112, 40, 63, 41]).map
        (fun pi => (pi.command, pi.isText)) = .ok (.sqlOther, true) ∧
    (Cursor.fresh.execute 100000 ⟨false, false⟩ id (fun _ => "")
        (executeBinaryParams ⟨true, "10.6"⟩) [67, 65, 76, 76, 32, 112, 40, 63, 41]
        (some (.seq [.int 1]))).2 =
      .ok (.execute (some [67, 65, 76, 76, 32, 112, 40, 63, 41])) ∧
    (Cursor.fresh.execute 100000 ⟨false, false⟩ id (fun _ => "")
        (executeBinaryParams ⟨true, "10.6"⟩) [32, 67, 65, 76, 76, 32, 112, 40, 63, 41]
        (some (.seq [.int 1]))).2 =
      .ok (.query [32, 67, 65, 76, 76, 32, 112, 40, 49, 41]) := by
  decide

end MariadbConnector
