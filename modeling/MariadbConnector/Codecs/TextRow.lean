import MariadbConnector.Codecs.Row

/-! Text-protocol rows (`field_fetch_fromtext` on each column `mysql_fetch_row` returns), and
their agreement with binary rows on the length-encoded types. -/

namespace MariadbConnector

open LittleEndian CString

/-- The `switch` of `field_fetch_fromtext` on a column that is not NULL, from its payload: the
value stored before the conversion, or `none` where `PyLong_FromString` raises and leaves `NULL`.
`atof` is the C library's, as the bits of the `double` it returns. -/
def fetchText (atof : List UInt8 → Nat) (field : MysqlField) (data : List UInt8) :
    Option BinaryValue :=
  match field.type with
  | .null => some .none
  | .tiny | .short | .year | .int24 | .long | .longlong => (fetchTextInt (cString data)).map .int
  | .float | .double => some (.double (atof (cString data)))
  | .time | .date | .datetime | .timestamp =>
    some (.temporal (fetchTextTemporal field.type (cString data)))
  | .tinyBlob | .mediumBlob | .blob | .longBlob | .geometry | .bit =>
    some (if field.binary then .bytes data else .str data)
  | .newdecimal => some (.decimal (cString data))
  | .string | .varString | .json | .varchar | .decimal | .set | .enum =>
    some (if field.binary then .bytes data else .str data)

/-- A converter of the connection on what `field_fetch_fromtext` stores, `none` standing for
`NULL`: `ma_convert_value` calls the callable on a value, and a call with `NULL` raises. -/
def liftConverter (conv : Converter BinaryValue) : Converter (Option BinaryValue) :=
  fun t => (conv t).map fun f v =>
    match v with
    | none => none
    | some v => (f v).map some

/-- `field_fetch_fromtext(self, data, column)` with `data` `NULL` for a NULL column: the value
stored, as `fieldFetchFromtext` has it with the `switch` as its decoder. -/
def fieldFetchFromtextRow (atof : List UInt8 → Nat) (converter : Option (Converter BinaryValue))
    (field : MysqlField) (data : Option (List UInt8)) : Option BinaryValue :=
  fieldFetchFromtext (some .none) (fun _ d => fetchText atof field d)
    (converter.map liftConverter) field.toResultField data

/-- `MrdbCursor_fetchinternal` on a text-protocol row: `field_fetch_fromtext` on each column of
the row `mysql_fetch_row` returns, `NULL` for a NULL column and its payload otherwise, in column
order. The values stored. -/
def fetchTextRow (atof : List UInt8 → Nat) (converter : Option (Converter BinaryValue))
    (fields : List MysqlField) (row : List (Option (List UInt8))) : List (Option BinaryValue) :=
  List.zipWith (fieldFetchFromtextRow atof converter) fields row

section Agree

variable {netFieldLength : List UInt8 → Nat × Nat}

/-! ### The two protocols on the length-encoded types -/

theorem convertFetched_liftConverter (converter : Option (Converter BinaryValue))
    (field : ResultField) (v : BinaryValue) :
    convertFetched (converter.map liftConverter) field (some v) =
      some (convertFetched converter field v) := by
  cases converter with
  | none => rfl
  | some conv =>
    simp only [convertFetched, Option.map_some, Option.isSome_some, if_true, maConvertValue,
      liftConverter]
    cases conv field.convType with
    | none => rfl
    | some f => cases hf : f v <;> simp [hf]

theorem fetchBinaryString_encode (hnet : NetFieldLength netFieldLength) (binary : Bool)
    {p : List UInt8} (hp : p.length < 2 ^ 32) :
    (fetchBinaryString netFieldLength binary (Cell.lenenc p).encode).1 =
      if binary then .bytes p else .str p := by
  simp only [fetchBinaryString, Cell.encode, hnet.lenenc _ hp, List.drop_left,
    List.take_length]

theorem fetchBinaryDecimal_encode (hnet : NetFieldLength netFieldLength) {p : List UInt8}
    (hp : p.length < 2 ^ 32) :
    (fetchBinaryDecimal netFieldLength (Cell.lenenc p).encode).1 =
      .decimal (if 0 < p.length then cString p else [48]) := by
  simp only [fetchBinaryDecimal, Cell.encode, hnet.lenenc _ hp, List.drop_left,
    List.take_length, cString]

/-- On a length-encoded type, the text `switch` and the binary one decode a payload alike; only
an empty NEWDECIMAL parts them, `Decimal("")` against `Decimal("0")`. -/
theorem fetchText_eq_fetchBinary (hnet : NetFieldLength netFieldLength) (atof : List UInt8 → Nat)
    {field : MysqlField} (hf : field.type.IsLenenc) {p : List UInt8} (hp : p.length < 2 ^ 32)
    (hdec : field.type = .newdecimal → p ≠ []) :
    fetchText atof field p = some (fetchBinary netFieldLength field (Cell.lenenc p).encode).1 := by
  obtain ⟨⟨type, extJson⟩, unsigned, binary⟩ := field
  cases type <;> simp only [FieldType.IsLenenc, List.mem_cons, List.not_mem_nil, reduceCtorEq,
      or_false, or_self] at hf <;>
    simp only [fetchText, fetchBinary, fetchBinaryString_encode hnet binary hp]
  -- NEWDECIMAL, the one branch that reads a C string
  have hpos : 0 < p.length := List.length_pos_of_ne_nil (hdec rfl)
  rw [fetchBinaryDecimal_encode hnet hp, if_pos hpos]

/-- A column of a length-encoded type: not NULL or NULL, each payload below `2 ^ 32` bytes, and a
NEWDECIMAL not empty, as the server sends it. -/
def LenencColumn (field : MysqlField) (c : Option (List UInt8)) : Prop :=
  field.type.IsLenenc ∧ ∀ p ∈ c, p.length < 2 ^ 32 ∧ (field.type = .newdecimal → p ≠ [])

instance (field : MysqlField) (c : Option (List UInt8)) : Decidable (LenencColumn field c) :=
  inferInstanceAs (Decidable (_ ∧ _))

theorem fetchColumn_agree (hnet : NetFieldLength netFieldLength) (atof : List UInt8 → Nat)
    (converter : Option (Converter BinaryValue)) {field : MysqlField} {c : Option (List UInt8)}
    (hc : LenencColumn field c) (hnull : converter = none ∨ c.isSome) :
    fieldFetchFromtextRow atof converter field c =
      some (fieldFetchCallbackRow netFieldLength converter field
        (c.map fun p => (Cell.lenenc p).encode)).1 := by
  obtain ⟨hf, hp⟩ := hc
  have hne : field.type ≠ .null := by
    intro h
    simp [FieldType.IsLenenc, h] at hf
  cases c with
  | none =>
    -- without a converter, both store `None`
    have hconv : converter = none := by simpa using hnull
    subst hconv
    rfl
  | some p =>
    obtain ⟨hlen, hdec⟩ := hp p rfl
    simp only [fieldFetchFromtextRow, fieldFetchFromtext, fieldFetchCallbackRow,
      fieldFetchCallback, Option.map_some, if_neg hne,
      fetchText_eq_fetchBinary hnet atof hf hlen hdec,
      convertFetched_liftConverter]

/-- **The text and the binary protocol decode the length-encoded types alike.** On columns of
the string types, the BLOBs, BIT, GEOMETRY, JSON, ENUM, SET, DECIMAL and NEWDECIMAL, the columns of
a text row as `mysql_fetch_row` hands them over, decoded by `field_fetch_fromtext`, and a binary
row carrying the same values, each column read from its own bytes by `field_fetch_callback`,
store the same values, whatever follows the binary row: with any converter when no value is NULL,
and without one also with NULLs. -/
theorem text_binary_rows_agree (hnet : NetFieldLength netFieldLength) (atof : List UInt8 → Nat)
    (converter : Option (Converter BinaryValue))
    {fetchRow : List (MysqlField × Bool) → List UInt8 → List BinaryValue × List UInt8}
    (hrow : Frame.ReadsInOrder fetchRow (callbackColumn netFieldLength converter))
    {fields : List MysqlField} {cells : List (Option (List UInt8))}
    (h : List.Forall₂ LenencColumn fields cells)
    (hnull : converter = none ∨ ∀ c ∈ cells, c.isSome) (rest : List UInt8) :
    fetchTextRow atof converter fields cells =
      (fetchRow (fields.zip (cells.map Option.isNone))
        ((cells.map (Option.map Cell.lenenc)).flatMap cellBytes ++ rest)).1.map some := by
  have hfits : List.Forall₂ (fun f c => ∀ x ∈ c, Cell.Fits f.type x) fields
      (cells.map (Option.map Cell.lenenc)) := by
    rw [List.forall₂_map_right_iff]
    refine h.imp fun f c hc x hx => ?_
    obtain ⟨p, hp, rfl⟩ := Option.mem_map.mp hx
    exact ⟨hc.1, (hc.2 p hp).1⟩
  have hnulls :
      (cells.map (Option.map Cell.lenenc)).map Option.isNone = cells.map Option.isNone := by
    simp [List.map_map, Function.comp_def]
  have hcols : ∀ c ∈ cells, converter = none ∨ c.isSome := fun c hc =>
    hnull.imp id fun hn => hn c hc
  rw [hrow.eq_readAll, ← hnulls,
    Frame.readAll_flatMap (fetchColumn_exact hnet converter) (columnFits_zip hfits) rest,
    zipWith_columns converter hfits, fetchTextRow]
  -- column by column, with the NULLs allowed by the converter
  dsimp only
  clear hfits hnulls hnull
  induction h with
  | nil => rfl
  | @cons f c fields cells hc _ ih =>
    rw [List.map_cons, List.zipWith_cons_cons, List.zipWith_cons_cons, List.map_cons,
      ih fun c' hc' => hcols c' (List.mem_cons_of_mem c hc'),
      fetchColumn_agree hnet atof converter hc (hcols c List.mem_cons_self), Option.map_map]
    rfl

end Agree

/-- A VARCHAR `'ab'`, a NULL BLOB and the NEWDECIMAL `1.5`, without a converter, under the
protocol's reading of lengths and a fetch that owns the column loop. -/
theorem text_binary_varchar_null_decimal :
    NetFieldLength lenencRef ∧
      Frame.ReadsInOrder (Frame.readAll (callbackColumn lenencRef none))
        (callbackColumn lenencRef none) ∧
      List.Forall₂ LenencColumn
        [⟨⟨.varchar, false⟩, false, false⟩, ⟨⟨.blob, false⟩, false, true⟩,
          ⟨⟨.newdecimal, false⟩, false, false⟩]
        [some [97, 98], none, some [49, 46, 53]] ∧
      fetchTextRow (fun _ => 0) none
          [⟨⟨.varchar, false⟩, false, false⟩, ⟨⟨.blob, false⟩, false, true⟩,
            ⟨⟨.newdecimal, false⟩, false, false⟩]
          [some [97, 98], none, some [49, 46, 53]] =
        (Frame.readAll (callbackColumn lenencRef none)
          ([⟨⟨.varchar, false⟩, false, false⟩, ⟨⟨.blob, false⟩, false, true⟩,
            ⟨⟨.newdecimal, false⟩, false, false⟩].zip
            ([some [97, 98], none, some [49, 46, 53]].map Option.isNone))
          (([some [97, 98], none, some [49, 46, 53]].map (Option.map Cell.lenenc)).flatMap
            cellBytes ++ [])).1.map some :=
  ⟨lenencRef_spec, Frame.readsInOrder_readAll _, by decide,
    text_binary_rows_agree lenencRef_spec _ none (Frame.readsInOrder_readAll _) (by decide)
      (.inl rfl) []⟩

end MariadbConnector
