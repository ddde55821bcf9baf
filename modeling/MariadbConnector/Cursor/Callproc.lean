import MariadbConnector.Cursor.Execute
import MariadbConnector.Parser.Plain

/-! `Cursor.callproc`: `CALL sp(?,...,?)` run by `execute`, always as a prepared statement, since
`_text` is never set while the command is `SQL_CALL`. -/
namespace MariadbConnector

section Name

variable {sp : List UInt8} (hsp : ∀ b ∈ sp, b ∉ specialBytes ∧ b ≠ 63 ∧ b ≠ 0)
include hsp

end Name

section Callproc

variable (sv : Nat) (opts : CursorOptions) (escape : String → String) (other : PyValue → String)
  (bindParams : MrdbParseInfo → Row → Except PyError Unit)

variable {sv opts escape other bindParams}

end Callproc

end MariadbConnector
