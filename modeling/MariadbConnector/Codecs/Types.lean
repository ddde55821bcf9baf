import MariadbConnector.Lib.LittleEndian
import MariadbConnector.Lib.Decimal

/-! The data of the codecs (`mariadb_codecs.c`): the field types they name, the Python values
they convert, and the integer conversions of the Python C API they call. -/
namespace MariadbConnector

/-- `enum enum_field_types`, the members the codecs name. `decimal` is `0`, the type of a zeroed
`MYSQL_BIND`. -/
inductive FieldType
  | decimal
  | tiny
  | short
  | long
  | float
  | double
  | null
  | timestamp
  | longlong
  | int24
  | date
  | time
  | datetime
  | year
  | newdecimal
  | varString
  | longBlob
  | json
  | varchar
  | bit
  | enum
  | set
  | tinyBlob
  | mediumBlob
  | blob
  | string
  | geometry
  deriving DecidableEq, Repr

/-- `IS_DECIMAL_TYPE(type)`. -/
def FieldType.isDecimal (t : FieldType) : Bool :=
  t == .newdecimal || t == .double || t == .float

/-- The objects of `mariadb.constants.INDICATOR`; their `indicator` attribute is the
`STMT_INDICATOR_*` code. -/
inductive Indicator
  | null
  | default
  | ignore
  | ignoreRow
  deriving DecidableEq, Repr

def Indicator.code : Indicator → Nat
  | .null => 1
  | .default => 2
  | .ignore => 3
  | .ignoreRow => 4

/-- A Python value as the codecs and the cursor see it: its class, and the part of its value
that the modelled functions read. A `float` or `Decimal` carries its `str()`. -/
inductive PyValue
  | none
  | indicator (i : Indicator)
  | int (v : Int)
  | bool (b : Bool)
  | float (repr : String)
  | decimal (repr : String)
  | str (s : String)
  | bytes (b : List UInt8)
  | bytearray (b : List UInt8)
  | date
  | datetime
  | time
  | timedelta
  /-- An instance of a subclass of `datetime.date` or `datetime.datetime` (such as
  `pandas.Timestamp`), with the `tp_name` of its class. -/
  | dateSubclass (typeName : String)
  /-- An object of another class, with its `str()` when the class is a `numbers.Number` (a
  `fractions.Fraction`, a `complex`). -/
  | other (typeName : String) (number : Option String)
  deriving DecidableEq, Repr

/-- The exception classes of the `mariadb` module that the modelled functions raise. -/
inductive ErrorClass
  | interfaceError
  | programmingError
  | notSupportedError
  | poolError
  /-- An exception of Python itself: `KeyError`, `IndexError`, `TypeError`,
  `UnboundLocalError`. -/
  | builtinError
  deriving DecidableEq, Repr

/-- A raised exception: its class and message. -/
structure PyError where
  cls : ErrorClass
  msg : String
  deriving DecidableEq, Repr

/-- `CHECK_TYPE(obj, &PyLong_Type)`: `int` and its subclass `bool`, with the integer value. -/
def PyValue.asPyLong : PyValue → Option Int
  | .int v => some v
  | .bool b => some (if b then 1 else 0)
  | _ => Option.none

/-- `_PyLong_NumBits`: the bit length of the absolute value. -/
def numBits (v : Int) : Nat := v.natAbs.size

/-- `PyLong_AsLongLong` (and `PyLong_AsLong`, `long` being 64 bits): `-1` with an
`OverflowError` set outside the range of `long long`. -/
def asLongLong (v : Int) : Int := if -2 ^ 63 ≤ v ∧ v < 2 ^ 63 then v else -1

/-- `PyLong_AsUnsignedLong` (and `PyLong_AsUnsignedLongLong`): `(unsigned long)-1` with an
error set outside `[0, 2^64)`. -/
def asUnsignedLong (v : Int) : Int := if 0 ≤ v ∧ v < 2 ^ 64 then v else 2 ^ 64 - 1

theorem asLongLong_of_mem {v : Int} (hlo : -2 ^ 63 ≤ v) (hhi : v < 2 ^ 63) :
    asLongLong v = v := if_pos ⟨hlo, hhi⟩

theorem asUnsignedLong_of_mem {v : Int} (hlo : 0 ≤ v) (hhi : v < 2 ^ 64) :
    asUnsignedLong v = v := if_pos ⟨hlo, hhi⟩

theorem natAbs_lt_of_numBits_le {v : Int} {k : Nat} (h : numBits v ≤ k) : v.natAbs < 2 ^ k :=
  lt_of_lt_of_le (Nat.lt_size_self _) (Nat.pow_le_pow_right (by norm_num) h)

end MariadbConnector
