import MariadbConnector.Codecs.Types

/-! The converter of a connection, applied by both result decoders after a column is decoded;
the decoding of each type is a parameter (`decode`). The two decoders part on SQL NULL. -/

namespace MariadbConnector

/-- A field of the result set as the decoders read it: its declared type, and whether
`mariadb_extended_field_type` reports `EXT_TYPE_JSON` for it. -/
structure ResultField where
  type : FieldType
  extJson : Bool
  deriving DecidableEq, Repr

/-- The type the converter is looked up under. -/
def ResultField.convType (field : ResultField) : FieldType :=
  if field.extJson then .json else field.type

/-- `connection->converter`, a dictionary keyed by field type. An entry that is callable is the
function `PyObject_CallObject` computes with it (`none` when the call raises); a missing entry and
one that is not callable are `none`. -/
abbrev Converter (α : Type) := FieldType → Option (α → Option α)

section Fetch

variable {α : Type} (pyNone : α)

/-- `ma_convert_value`: `NULL` without a converter, without a callable for `type`, or when the
call raises; else what the callable returns. -/
def maConvertValue (converter : Option (Converter α)) (type : FieldType) (value : α) : Option α :=
  match converter with
  | none => none
  | some conv =>
    match conv type with
    | none => none
    | some func => func value

/-- The conversion both decoders end with: when the connection has a converter, the value
`ma_convert_value` returns replaces the decoded one. -/
def convertFetched (converter : Option (Converter α)) (field : ResultField) (value : α) : α :=
  if converter.isSome then (maConvertValue converter field.convType value).getD value else value

/-- `field_fetch_fromtext`: a NULL is decoded under `MYSQL_TYPE_NULL` as `None`, and converted
under the field's own type. -/
def fieldFetchFromtext (decode : FieldType → List UInt8 → α) (converter : Option (Converter α))
    (field : ResultField) (data : Option (List UInt8)) : α :=
  let value :=
    match data with
    | none => pyNone
    | some d => if field.type = .null then pyNone else decode field.type d
  convertFetched converter field value

/-- `field_fetch_callback`: a NULL (`row == NULL`) is stored as `None` and the callback returns
before the conversion. -/
def fieldFetchCallback (decode : FieldType → List UInt8 → α) (converter : Option (Converter α))
    (field : ResultField) (row : Option (List UInt8)) : α :=
  match row with
  | none => pyNone
  | some r => convertFetched converter field (if field.type = .null then pyNone else decode field.type r)

/-! ### What the conversion stores -/

/-- With a converter installed, the callable registered under the field's type is applied, and
the decoded value stays when there is none or it raises. -/
theorem convertFetched_some (conv : Converter α) (field : ResultField) (value : α) :
    convertFetched (some conv) field value =
      match conv field.convType with
      | none => value
      | some func => (func value).getD value := by
  simp only [convertFetched, Option.isSome_some, if_true, maConvertValue]
  cases conv field.convType with
  | none => rfl
  | some func => rfl

/-! ### The two decoders -/

theorem fieldFetchFromtext_null (decode : FieldType → List UInt8 → α)
    (converter : Option (Converter α)) (field : ResultField) :
    fieldFetchFromtext pyNone decode converter field none = convertFetched converter field pyNone :=
  rfl

theorem fieldFetchCallback_null (decode : FieldType → List UInt8 → α)
    (converter : Option (Converter α)) (field : ResultField) :
    fieldFetchCallback pyNone decode converter field none = pyNone :=
  rfl

/-- **SQL NULL is converted by the text protocol only.** When the converter has a callable for
the column's type that maps `None` to a value, the text protocol stores that value and the binary
protocol stores `None`. -/
theorem fetch_null_converter_divergence (decodeText decodeBinary : FieldType → List UInt8 → α)
    (conv : Converter α) (field : ResultField) {func : α → Option α} {value : α}
    (hfunc : conv field.convType = some func) (hvalue : func pyNone = some value) :
    fieldFetchFromtext pyNone decodeText (some conv) field none = value ∧
      fieldFetchCallback pyNone decodeBinary (some conv) field none = pyNone := by
  refine ⟨?_, fieldFetchCallback_null pyNone decodeBinary _ field⟩
  rw [fieldFetchFromtext_null, convertFetched_some, hfunc]
  simp [hvalue]

end Fetch

/-- `SELECT NULL` with the converter `{FIELD_TYPE.NULL: none_to_string}`: `'None'` through the
text protocol, `None` through the binary one. -/
theorem fetch_null_none_to_string :
    fieldFetchFromtext PyValue.none (fun _ _ => .none)
        (some fun t => if t = .null then some fun v => some (match v with
          | .none => .str "None"
          | v => v) else none) ⟨.null, false⟩ none = .str "None" ∧
      fieldFetchCallback PyValue.none (fun _ _ => .none)
        (some fun t => if t = .null then some fun v => some (match v with
          | .none => .str "None"
          | v => v) else none) ⟨.null, false⟩ none = .none :=
  fetch_null_converter_divergence PyValue.none _ _ _ _ rfl rfl

end MariadbConnector
