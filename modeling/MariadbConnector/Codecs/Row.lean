import MariadbConnector.Codecs.Temporal
import MariadbConnector.Codecs.Convert
import MariadbConnector.Lib.Frame

/-! Binary-protocol rows: `field_fetch_callback` on each column through the row cursor
Connector/C shares between the calls, and that each branch moves it over exactly its column. -/

namespace MariadbConnector

open LittleEndian

/-- A field of the result set as `field_fetch_callback` reads it: besides its type and the JSON
flag, `UNSIGNED_FLAG`, and whether its `charsetnr` is `CHARSET_BINARY`. -/
structure MysqlField extends ResultField where
  unsigned : Bool
  binary : Bool
  deriving DecidableEq, Repr

/-- What `field_fetch_callback` stores in `self->values[column]`, by the call that makes it:
`None`, an `int`, a `float` from the bits of a `float` or of a `double`, a temporal value,
`bytes`, a `str` decoded from the bytes, or a `Decimal` from its text. -/
inductive BinaryValue
  | none
  | int (v : Int)
  | float (bits : Nat)
  | double (bits : Nat)
  | temporal (v : PyTemporal)
  | bytes (b : List UInt8)
  | str (b : List UInt8)
  | decimal (text : List UInt8)
  deriving DecidableEq, Repr

/-- The branches for the string types: the length from `mysql_net_field_length`, then
`PyBytes_FromStringAndSize` for a binary field and `PyUnicode_FromStringAndSize` for another;
`*row` moves past the prefix and the payload. -/
def fetchBinaryString (netFieldLength : List UInt8 → Nat × Nat) (binary : Bool)
    (row : List UInt8) : BinaryValue × Nat :=
  let l := netFieldLength row
  let payload := (row.drop l.2).take l.1
  (if binary then .bytes payload else .str payload, l.2 + l.1)

/-- The NEWDECIMAL branch: the payload is copied and NUL-terminated, and the `s` format reads it up
to its first NUL; an empty payload is read as `"0"`. -/
def fetchBinaryDecimal (netFieldLength : List UInt8 → Nat × Nat) (row : List UInt8) :
    BinaryValue × Nat :=
  let l := netFieldLength row
  let payload := (row.drop l.2).take l.1
  (.decimal (if 0 < l.1 then payload.takeWhile (· != 0) else [48]), l.2 + l.1)

/-- The `switch` of `field_fetch_callback` on a column that is not NULL: the value stored before
the conversion, and how far `*row` moves. -/
def fetchBinary (netFieldLength : List UInt8 → Nat × Nat) (field : MysqlField)
    (row : List UInt8) : BinaryValue × Nat :=
  match field.type with
  | .null => (.none, 0)
  | .tiny | .short | .year | .int24 | .long | .longlong =>
    match fetchBinaryInt field.type field.unsigned row with
    | some r => (.int r.1, r.2)
    | none => (.none, 0)
  | .float => (.float (leValue (row.take 4)), 4)
  | .double => (.double (leValue (row.take 8)), 8)
  | .datetime | .timestamp | .date | .time =>
    let r := fetchBinaryTemporal netFieldLength field.type row
    (.temporal r.1, r.2)
  | .tinyBlob | .mediumBlob | .blob | .longBlob | .bit =>
    fetchBinaryString netFieldLength field.binary row
  | .newdecimal => fetchBinaryDecimal netFieldLength row
  | .geometry | .string | .varString | .json | .varchar | .decimal | .set | .enum =>
    fetchBinaryString netFieldLength field.binary row

/-- `field_fetch_callback(self, column, row)`, where `row` is `NULL` for a NULL column and the
shared cursor otherwise: the value stored, as `fieldFetchCallback` has it with the `switch` as its
decoder, and how far `*row` moves. -/
def fieldFetchCallbackRow (netFieldLength : List UInt8 → Nat × Nat)
    (converter : Option (Converter BinaryValue)) (field : MysqlField) (row : Option (List UInt8)) :
    BinaryValue × Nat :=
  (fieldFetchCallback .none (fun _ r => (fetchBinary netFieldLength field r).1) converter
      field.toResultField row,
    match row with
    | none => 0
    | some r => (fetchBinary netFieldLength field r).2)

/-- The callback as Connector/C is assumed to call it on a column of a binary-protocol row under
`STMT_ATTR_CB_RESULT`: with the shared cursor into the row's values, or with `NULL` for a column
the NULL bitmap marks. The row fetch calls it once per column, in column order
(`Frame.ReadsInOrder`). -/
def callbackColumn (netFieldLength : List UInt8 → Nat × Nat)
    (converter : Option (Converter BinaryValue)) (col : MysqlField × Bool) (row : List UInt8) :
    BinaryValue × Nat :=
  fieldFetchCallbackRow netFieldLength converter col.1 (if col.2 then none else some row)

/-! ### What the server sends -/

/-- A value of a binary-protocol row that is not NULL, as the server lays it out: bytes of a fixed
width, a temporal value behind its length byte, or a length-encoded string. -/
inductive Cell
  | fixed (bytes : List UInt8)
  | temporal (payload : List UInt8)
  | lenenc (payload : List UInt8)
  deriving DecidableEq, Repr

/-- The bytes of a cell. -/
def Cell.encode : Cell → List UInt8
  | .fixed b => b
  | .temporal p => UInt8.ofNat p.length :: p
  | .lenenc p => LittleEndian.lenenc p.length ++ p

/-- The bytes of a column: none for NULL. -/
def cellBytes : Option Cell → List UInt8
  | none => []
  | some c => c.encode

/-- The width of a fixed-width type on the wire: INT24 travels in four bytes. -/
def wireWidth : FieldType → Option Nat
  | .tiny => some 1
  | .short | .year => some 2
  | .int24 | .long | .float => some 4
  | .longlong | .double => some 8
  | _ => none

/-- The lengths the server gives a temporal value: none for a zero value; a date; a date with a
time of day, and with microseconds; a time with its day count, and with microseconds. -/
def temporalLengths : FieldType → List Nat
  | .date => [0, 4]
  | .datetime | .timestamp => [0, 4, 7, 11]
  | .time => [0, 8, 12]
  | _ => []

/-- The types the server sends as length-encoded strings. -/
def FieldType.IsLenenc (t : FieldType) : Prop :=
  t ∈ [.decimal, .newdecimal, .varchar, .bit, .enum, .set, .tinyBlob, .mediumBlob, .blob,
    .longBlob, .varString, .string, .geometry, .json]

instance (t : FieldType) : Decidable t.IsLenenc := inferInstanceAs (Decidable (t ∈ _))

/-- The cells a column of type `t` holds. No string reaches `2 ^ 32` bytes, the bound of
LONGBLOB. -/
def Cell.Fits (t : FieldType) : Cell → Prop
  | .fixed b => wireWidth t = some b.length
  | .temporal p => p.length ∈ temporalLengths t
  | .lenenc p => t.IsLenenc ∧ p.length < 2 ^ 32

instance (t : FieldType) (c : Cell) : Decidable (c.Fits t) :=
  match c with
  | .fixed b => inferInstanceAs (Decidable (wireWidth t = some b.length))
  | .temporal p => inferInstanceAs (Decidable (p.length ∈ temporalLengths t))
  | .lenenc p => inferInstanceAs (Decidable (t.IsLenenc ∧ p.length < 2 ^ 32))

section Framing

variable {netFieldLength : List UInt8 → Nat × Nat}

/-! ### Each branch reads exactly its column -/

theorem fetchBinary_fixed {field : MysqlField} {b : List UInt8}
    (hw : wireWidth field.type = some b.length) (rest : List UInt8) :
    fetchBinary netFieldLength field (b ++ rest) =
      ((fetchBinary netFieldLength field b).1, b.length) := by
  obtain ⟨⟨type, extJson⟩, unsigned, binary⟩ := field
  -- every fixed-width branch reads at most its width, INT24 three bytes of its four
  cases type <;> simp only [wireWidth, reduceCtorEq, Option.some.injEq] at hw <;>
    simp (disch := omega) [fetchBinary, fetchBinaryInt, korrValue, uintKorr, sintKorr,
      List.take_append_of_le_length, List.take_of_length_le, List.getElem?_append_left] <;>
    exact hw

theorem mem_temporalLengths {t : FieldType} {n : Nat} (h : n ∈ temporalLengths t) :
    n ≤ 12 ∧ (t = .date ∨ t = .datetime ∨ t = .timestamp ∨ t = .time) := by
  cases t <;> simp only [temporalLengths, List.mem_cons, List.not_mem_nil, or_false] at h <;>
    simp only [reduceCtorEq, or_false, false_or, and_true] <;> omega

/-- A temporal value of an allowed length is read from its length byte and its payload, and the
cursor moves past them. -/
theorem fetchBinaryTemporal_append (hnet : NetFieldLength netFieldLength) {t : FieldType}
    {p : List UInt8} (hp : p.length ∈ temporalLengths t) (rest : List UInt8) :
    fetchBinaryTemporal netFieldLength t ((UInt8.ofNat p.length :: p) ++ rest) =
      ((fetchBinaryTemporal netFieldLength t (UInt8.ofNat p.length :: p)).1, p.length + 1) := by
  obtain ⟨hle, ht⟩ := mem_temporalLengths hp
  have hn : ∀ r, netFieldLength (UInt8.ofNat p.length :: r) = (p.length, 1) := by
    intro r
    rw [hnet.of_lt (by rw [UInt8.toNat_ofNat']; omega), UInt8.toNat_ofNat',
      Nat.mod_eq_of_lt (by omega)]
  simp only [fetchBinaryTemporal, List.cons_append, hn, List.drop_succ_cons, List.drop_zero,
    Nat.mod_eq_of_lt (by omega : p.length < 256)]
  rcases Nat.eq_zero_or_pos p.length with h0 | hpos
  · rw [List.length_eq_zero_iff.mp h0]
    rcases ht with rfl | rfl | rfl | rfl <;> simp
  · -- under each length the branch tests, the fields it reads lie inside the payload
    rcases ht with rfl | rfl | rfl | rfl <;>
      simp only [temporalLengths, List.mem_cons, List.not_mem_nil, or_false] at hp <;>
      split_ifs <;> first
        | omega
        | simp (disch := first | omega | (simp only [List.length_drop, List.length_tail]; omega))
          [List.getElem?_append_left, List.take_append_of_le_length,
            List.drop_append_of_le_length, List.take_of_length_le, Nat.add_comm 1 p.length]

theorem fetchBinaryString_lenenc (hnet : NetFieldLength netFieldLength) (binary : Bool)
    {p : List UInt8} (hp : p.length < 2 ^ 32) (rest : List UInt8) :
    fetchBinaryString netFieldLength binary (lenenc p.length ++ p ++ rest) =
      ((fetchBinaryString netFieldLength binary (lenenc p.length ++ p)).1,
        (lenenc p.length).length + p.length) := by
  simp only [fetchBinaryString, List.append_assoc, hnet.lenenc _ hp, List.drop_left,
    List.take_left', List.take_length]

theorem fetchBinaryDecimal_lenenc (hnet : NetFieldLength netFieldLength) {p : List UInt8}
    (hp : p.length < 2 ^ 32) (rest : List UInt8) :
    fetchBinaryDecimal netFieldLength (lenenc p.length ++ p ++ rest) =
      ((fetchBinaryDecimal netFieldLength (lenenc p.length ++ p)).1,
        (lenenc p.length).length + p.length) := by
  simp only [fetchBinaryDecimal, List.append_assoc, hnet.lenenc _ hp, List.drop_left,
    List.take_left', List.take_length]

/-- The `switch` reads a cell that fits its column from the cell's own bytes, and moves the
cursor past them. -/
theorem fetchBinary_exact (hnet : NetFieldLength netFieldLength) {field : MysqlField} {c : Cell}
    (hc : c.Fits field.type) (rest : List UInt8) :
    fetchBinary netFieldLength field (c.encode ++ rest) =
      ((fetchBinary netFieldLength field c.encode).1, c.encode.length) := by
  cases c with
  | fixed b => exact fetchBinary_fixed hc rest
  | temporal p =>
    have ht := fetchBinaryTemporal_append hnet hc rest
    obtain ⟨⟨type, extJson⟩, unsigned, binary⟩ := field
    rcases (mem_temporalLengths hc).2 with rfl | rfl | rfl | rfl <;>
      simp only [fetchBinary, Cell.encode, ht, List.length_cons]
  | lenenc p =>
    obtain ⟨hlen, hp⟩ := hc
    obtain ⟨⟨type, extJson⟩, unsigned, binary⟩ := field
    cases type <;> simp only [FieldType.IsLenenc, List.mem_cons, List.not_mem_nil, reduceCtorEq,
      or_false, or_self] at hlen <;>
      simp only [fetchBinary, Cell.encode, fetchBinaryString_lenenc hnet _ hp,
        fetchBinaryDecimal_lenenc hnet hp, List.length_append]

/-- `field_fetch_callback` reads a value that fits its column from its own bytes, and moves the
shared cursor past them. -/
theorem fieldFetchCallbackRow_exact (hnet : NetFieldLength netFieldLength)
    (converter : Option (Converter BinaryValue)) (field : MysqlField) {c : Cell}
    (hc : c.Fits field.type) (rest : List UInt8) :
    fieldFetchCallbackRow netFieldLength converter field (some (c.encode ++ rest)) =
      ((fieldFetchCallbackRow netFieldLength converter field (some c.encode)).1,
        c.encode.length) := by
  simp only [fieldFetchCallbackRow, fieldFetchCallback, fetchBinary_exact hnet hc rest]

/-! ### A whole row -/

/-- A column matches its cell: marked NULL exactly when it has no value, and the value fits the
column's type. -/
def ColumnFits (col : MysqlField × Bool) (c : Option Cell) : Prop :=
  col.2 = c.isNone ∧ ∀ x ∈ c, x.Fits col.1.type

theorem fetchColumn_exact (hnet : NetFieldLength netFieldLength)
    (converter : Option (Converter BinaryValue)) :
    Frame.Exact (callbackColumn netFieldLength converter) cellBytes ColumnFits := by
  rintro ⟨field, isNull⟩ c rest ⟨hnull, hfit⟩
  cases c with
  | none =>
    -- a NULL column is handed `NULL` and moves no byte
    simp only [Option.isNone_none] at hnull
    simp [hnull, cellBytes, callbackColumn, fieldFetchCallbackRow]
  | some x =>
    simp only [Option.isNone_some] at hnull
    simp only [callbackColumn, hnull, Bool.false_eq_true, if_false, cellBytes]
    exact fieldFetchCallbackRow_exact hnet converter field (hfit x rfl) rest

theorem columnFits_zip {fields : List MysqlField} {cells : List (Option Cell)}
    (h : List.Forall₂ (fun f c => ∀ x ∈ c, Cell.Fits f.type x) fields cells) :
    List.Forall₂ ColumnFits (fields.zip (cells.map Option.isNone)) cells := by
  induction h with
  | nil => exact .nil
  | cons hfc _ ih => exact .cons ⟨rfl, hfc⟩ ih

theorem zipWith_columns (converter : Option (Converter BinaryValue)) {fields : List MysqlField}
    {cells : List (Option Cell)}
    (h : List.Forall₂ (fun f c => ∀ x ∈ c, Cell.Fits f.type x) fields cells) :
    List.zipWith (fun col c => (callbackColumn netFieldLength converter col (cellBytes c)).1)
        (fields.zip (cells.map Option.isNone)) cells =
      List.zipWith
        (fun f c => (fieldFetchCallbackRow netFieldLength converter f (c.map Cell.encode)).1)
        fields cells := by
  induction h with
  | nil => rfl
  | @cons f c fields cells _ _ ih =>
    rw [List.map_cons, List.zip_cons_cons, List.zipWith_cons_cons, List.zipWith_cons_cons, ih]
    cases c <;> rfl

/-- **Every column of a binary-protocol row is read from its own bytes.** On a column whose value
fits its type, `field_fetch_callback` moves the shared cursor by exactly the value's encoded size
and reads the value from those bytes alone. So over any columns and any row the server sends for
them, NULL columns marked in the bitmap, a row fetch that calls it once per column in column order
reads every column as its own bytes alone would be read, and leaves the cursor at the end of the
row. -/
theorem fetch_row_framing (hnet : NetFieldLength netFieldLength)
    (converter : Option (Converter BinaryValue))
    {fetchRow : List (MysqlField × Bool) → List UInt8 → List BinaryValue × List UInt8}
    (hrow : Frame.ReadsInOrder fetchRow (callbackColumn netFieldLength converter)) :
    (∀ (field : MysqlField) (c : Cell), c.Fits field.type → ∀ rest : List UInt8,
      fieldFetchCallbackRow netFieldLength converter field (some (c.encode ++ rest)) =
        ((fieldFetchCallbackRow netFieldLength converter field (some c.encode)).1,
          c.encode.length)) ∧
    ∀ (fields : List MysqlField) (cells : List (Option Cell)),
      List.Forall₂ (fun f c => ∀ x ∈ c, Cell.Fits f.type x) fields cells → ∀ rest : List UInt8,
        fetchRow (fields.zip (cells.map Option.isNone)) (cells.flatMap cellBytes ++ rest) =
          (List.zipWith
            (fun f c => (fieldFetchCallbackRow netFieldLength converter f (c.map Cell.encode)).1)
            fields cells, rest) := by
  refine ⟨fun field c hc rest => fieldFetchCallbackRow_exact hnet converter field hc rest, ?_⟩
  intro fields cells h rest
  rw [hrow.eq_readAll, Frame.readAll_flatMap (fetchColumn_exact hnet converter) (columnFits_zip h)
    rest, zipWith_columns converter h]

end Framing

/-- A signed INT24 `-2`, a NULL, and the VARCHAR `'abc'`, under the protocol's reading of lengths
and a fetch that owns the column loop: the INT24 takes four bytes, the NULL none, and the cursor
ends after the string. -/
theorem fetch_row_int24_null_varchar :
    NetFieldLength lenencRef ∧
      Frame.ReadsInOrder (Frame.readAll (callbackColumn lenencRef none))
        (callbackColumn lenencRef none) ∧
      Frame.readAll (callbackColumn lenencRef none)
          [(⟨⟨.int24, false⟩, false, false⟩, false), (⟨⟨.long, false⟩, false, false⟩, true),
            (⟨⟨.varchar, false⟩, false, false⟩, false)]
          [254, 255, 255, 255, 3, 97, 98, 99] =
        ([.int (-2), .none, .str [97, 98, 99]], []) :=
  ⟨lenencRef_spec, Frame.readsInOrder_readAll _,
    ((fetch_row_framing lenencRef_spec none (Frame.readsInOrder_readAll _)).2
      [⟨⟨.int24, false⟩, false, false⟩, ⟨⟨.long, false⟩, false, false⟩,
        ⟨⟨.varchar, false⟩, false, false⟩]
      [some (.fixed [254, 255, 255, 255]), none, some (.lenenc [97, 98, 99])] (by decide)
      []).trans (by decide)⟩

end MariadbConnector
