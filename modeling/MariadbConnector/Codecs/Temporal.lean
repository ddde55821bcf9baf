import MariadbConnector.Codecs.Integer

/-! The temporal branches of the two result decoders: `field_fetch_fromtext` parses the text
with `Py_str_to_TIME` and filters it with `check_date` and `check_time`; `field_fetch_callback`
unpacks the binary encoding and calls the Python constructors directly. -/
namespace MariadbConnector

open CString LittleEndian Decimal

/-- `enum enum_mysql_timestamp_type`. -/
inductive TimestampType
  | none
  | error
  | date
  | datetime
  | time
  deriving DecidableEq, Repr

/-- `MYSQL_TIME`, the fields the parser and the decoders use. -/
structure MysqlTime where
  year : Nat
  month : Nat
  day : Nat
  hour : Nat
  minute : Nat
  second : Nat
  secondPart : Nat
  neg : Bool
  timeType : TimestampType
  deriving DecidableEq, Repr

/-- A zeroed `MYSQL_TIME`; `time_type` `0` is `MYSQL_TIMESTAMP_DATE`. -/
def MysqlTime.zero : MysqlTime := ⟨0, 0, 0, 0, 0, 0, 0, false, .date⟩

/-- What a decoder stores in `self->values[column]`: `None`, a `datetime.date`, a
`datetime.datetime`, a `datetime.timedelta` (by its microseconds), or `NULL` with the
exception of a constructor pending. -/
inductive PyTemporal
  | none
  | date (year month day : Nat)
  | datetime (year month day hour minute second microsecond : Nat)
  | delta (micros : Int)
  | error
  deriving DecidableEq, Repr

/-! ### The Python constructors -/

/-- The days of a month in the proleptic Gregorian calendar, as `datetime` counts them. -/
def daysInMonth (year month : Nat) : Nat :=
  if month = 2 then
    if (year % 4 = 0 ∧ year % 100 ≠ 0) ∨ year % 400 = 0 then 29 else 28
  else if month = 4 ∨ month = 6 ∨ month = 9 ∨ month = 11 then 30
  else 31

/-- The dates `datetime.date` accepts. -/
def ValidDate (year month day : Nat) : Prop :=
  1 ≤ year ∧ year ≤ 9999 ∧ 1 ≤ month ∧ month ≤ 12 ∧ 1 ≤ day ∧ day ≤ daysInMonth year month

instance (year month day : Nat) : Decidable (ValidDate year month day) := by
  unfold ValidDate
  infer_instance

/-- `PyDate_FromDate`: a `ValueError` for a date out of range. -/
def pyDateFromDate (year month day : Nat) : PyTemporal :=
  if ValidDate year month day then .date year month day else .error

/-- `PyDateTime_FromDateAndTime`. -/
def pyDateTimeFromDateAndTime (year month day hour minute second us : Nat) : PyTemporal :=
  if ValidDate year month day ∧ hour < 24 ∧ minute < 60 ∧ second < 60 ∧ us < 1000000 then
    .datetime year month day hour minute second us
  else .error

/-- `PyDelta_FromDSU(days, seconds, us)`: normalised to microseconds; an `OverflowError` past
`999999999` days. -/
def pyDeltaFromDSU (days seconds us : Int) : PyTemporal :=
  let micros := (days * 86400 + seconds) * 1000000 + us
  if micros / 86400000000 < -999999999 ∨ 999999999 < micros / 86400000000 then .error
  else .delta micros

/-- `Mrdb_GetTimeDelta`: the fields negated under `neg`, whole days split off the hours with
C's truncating division, the rest as seconds. -/
def getTimeDelta (tm : MysqlTime) : PyTemporal :=
  let sign : Int := if tm.neg then -1 else 1
  let hour : Int := sign * tm.hour
  let days := hour.tdiv 24
  let hour := hour.tmod 24
  let second := hour * 3600 + sign * tm.minute * 60 + sign * tm.second
  pyDeltaFromDSU days second (sign * tm.secondPart)

/-! ### The text protocol -/

/-- `my_strtoull`'s loop from the value `acc`: the digits it takes, the value, and whether it
stopped on `ERANGE`. -/
def strtoullGo : Nat → List UInt8 → Nat × Nat × Bool
  | acc, [] => (acc, 0, false)
  | acc, b :: bs =>
    if b < 48 ∨ 57 < b then (acc, 0, false)
    else if (2 ^ 64 - 1) / 10 < acc ∨ 2 ^ 64 - 1 - (b.toNat - 48) < acc * 10 then (acc, 0, true)
    else
      let r := strtoullGo (10 * acc + (b.toNat - 48)) bs
      (r.1, r.2.1 + 1, r.2.2)

/-- `my_strtoui(str, len, &end, &err)` on the `len` bytes `s`: the value cast to
`unsigned int`, the bytes taken, and `err` (no digit, `ERANGE`, or above `UINT_MAX`). -/
def myStrtoui (s : List UInt8) : Nat × Nat × Bool :=
  let r := strtoullGo 0 s
  (r.1 % 2 ^ 32, r.2.1, r.2.2 || r.2.1 = 0 || decide (2 ^ 32 - 1 < r.1))

/-- `ERANGE`. -/
def erange : Int := 34

/-- `my_strtoull(str, len, &end, &err)` on the `len` bytes `s`, with `*err` equal to `err` on
entry: the value, how far `end` lies past `str`, and `*err` on return. -/
def myStrtoull (s : List UInt8) (err : Int) : Nat × Nat × Int :=
  let r := strtoullGo 0 s
  (r.1, r.2.1, if r.2.2 || r.2.1 = 0 then erange else err)

/-- `my_strtoui(str, len, &end, &err)` with `*err` equal to `err` on entry: the value cast to
`unsigned int`, how far `end` lies past `str`, and `*err` on return. -/
def myStrtouiFrom (s : List UInt8) (err : Int) : Nat × Nat × Int :=
  let r := myStrtoull s err
  (r.1 % 2 ^ 32, r.2.1, if 2 ^ 32 - 1 < r.1 then erange else r.2.2)

/-- `frac_mul[]`. -/
def fracMul (k : Nat) : Nat := 10 ^ (6 - k)

/-- `parse_time` on `str`: `hour:minute:second[.fraction]`, the fraction read from at most six
bytes and scaled by `frac_mul`. Bytes after the seconds that are not a fraction are ignored. -/
def parseTime (s : List UInt8) (tm : MysqlTime) : Option MysqlTime :=
  let h := myStrtoui s
  let s := s.drop h.2.1
  if h.2.2 ∨ 838 < h.1 ∨ s.head? ≠ some 58 then none
  else
    let s := s.drop 1
    let mi := myStrtoui s
    let s := s.drop mi.2.1
    if mi.2.2 ∨ 59 < mi.1 ∨ s.head? ≠ some 58 then none
    else
      let s := s.drop 1
      let sec := myStrtoui s
      let s := s.drop sec.2.1
      let tm := { tm with hour := h.1, minute := mi.1, second := sec.1, secondPart := 0 }
      if sec.2.2 ∨ 59 < sec.1 then none
      else if s.head? ≠ some 46 then some tm
      else
        let s := s.drop 1
        let fracLen := min 6 s.length
        let f := myStrtoui (s.take fracLen)
        if f.2.2 then some { tm with secondPart := f.1 }
        else some { tm with secondPart := if fracLen < 6 then f.1 * fracMul fracLen else f.1 }

/-- `parse_date` on `str`: `year-month-day`, a two-digit year moved into 1970-2069; the bytes
after the day are returned. -/
def parseDate (s : List UInt8) (tm : MysqlTime) : Option (MysqlTime × List UInt8) :=
  let y := myStrtoui s
  let s := s.drop y.2.1
  if y.2.2 ∨ 9999 < y.1 ∨ s.head? ≠ some 45 then none
  else
    let year := if y.2.1 = 2 then (if 70 ≤ y.1 then y.1 + 1900 else y.1 + 2000) else y.1
    let s := s.drop 1
    let mo := myStrtoui s
    let s := s.drop mo.2.1
    if mo.2.2 ∨ 12 < mo.1 ∨ s.head? ≠ some 45 then none
    else
      let s := s.drop 1
      let d := myStrtoui s
      if d.2.2 ∨ 31 < d.1 then none
      else some ({ tm with year, month := mo.1, day := d.1 }, s.drop d.2.1)

/-- Whether the text is a TIME: the first `-` or `:` after the first byte is a `:`. -/
def isTimeText (s : List UInt8) : Bool :=
  match (s.drop 1).find? (fun b => b == 45 || b == 58) with
  | some b => b == 58
  | none => false

/-- `Py_str_to_TIME`: spaces trimmed, then a negative TIME, a TIME, a DATE, or a DATE, a space
and a time of day. `none` is the error return `1`, after which `tm` is zeroed with `time_type`
`MYSQL_TIMESTAMP_ERROR`. -/
def pyStrToTime (s : List UInt8) : Option MysqlTime :=
  let s := ((s.dropWhile isspace).reverse.dropWhile isspace).reverse
  if s.length < 5 then none
  else if s.head? = some 45 then
    (parseTime (s.drop 1) { MysqlTime.zero with neg := true }).map
      fun tm => { tm with year := 0, month := 0, day := 0, timeType := .time }
  else if isTimeText s then
    (parseTime s MysqlTime.zero).map
      fun tm => { tm with year := 0, month := 0, day := 0, timeType := .time }
  else
    match parseDate s MysqlTime.zero with
    | none => none
    | some (tm, rest) =>
      if rest.head? ≠ some 32 then
        some { tm with hour := 0, minute := 0, second := 0, secondPart := 0, timeType := .date }
      else
        match parseTime (rest.drop 1) tm with
        | none => none
        | some tm => if 23 < tm.hour then none else some { tm with timeType := .datetime }

/-- `check_date(year, month, day)`, with its `uint16_t` and `uint8_t` parameters: no test that
the day is at least `1`. -/
def checkDate (year month day : Nat) : Bool :=
  let year := year % 2 ^ 16
  let month := month % 2 ^ 8
  let day := day % 2 ^ 8
  let isLeap := (year % 4 = 0 ∧ year % 100 ≠ 0) ∨ year % 400 = 0
  if year < 1 ∨ 9999 < year then false
  else if month < 1 ∨ 12 < month then false
  else if month = 2 ∧ ((isLeap ∧ 29 < day) ∨ (¬ isLeap ∧ 28 < day)) then false
  else if (month = 4 ∨ month = 6 ∨ month = 9 ∨ month = 11) ∧ 30 < day then false
  else true

/-- `check_time(tm)`. -/
def checkTime (tm : MysqlTime) : Bool :=
  !(838 < tm.hour ∨ 59 < tm.minute ∨ 59 < tm.second ∨ 999999 < tm.secondPart)

/-- The temporal branches of `field_fetch_fromtext`: the return code of `Py_str_to_TIME` is
ignored, and a failed parse leaves the zeroed `tm`. -/
def fetchTextTemporal (type : FieldType) (data : List UInt8) : PyTemporal :=
  let tm := (pyStrToTime data).getD MysqlTime.zero
  if type = .time then
    if checkTime tm then getTimeDelta tm else .none
  else if type = .date then
    if checkDate tm.year tm.month tm.day then pyDateFromDate tm.year tm.month tm.day else .none
  else if checkDate tm.year tm.month tm.day && checkTime tm then
    pyDateTimeFromDateAndTime tm.year tm.month tm.day tm.hour tm.minute tm.second tm.secondPart
  else .none

/-! ### The binary protocol -/

/-- `NULL_LENGTH`, `(unsigned long) ~0`. -/
def nullLength : Nat := 2 ^ 64 - 1

/-- What the model assumes of Connector/C's `mysql_net_field_length(&row)`, which reads the
length-encoded integer at `row` and moves `row` past it: a length below `2 ^ 32` is read back
from its encoding. A NULL column of a binary row is marked in the row's bitmap and has no bytes,
so the NULL marker 251 is not assumed to mean anything. -/
structure NetFieldLength (netFieldLength : List UInt8 → Nat × Nat) : Prop where
  lenenc : ∀ n < 2 ^ 32, ∀ rest, netFieldLength (lenenc n ++ rest) = (n, (lenenc n).length)

/-- A reading of length-encoded integers by the protocol's rules; it meets `NetFieldLength`. -/
def lenencRef (row : List UInt8) : Nat × Nat :=
  let b := (row.getD 0 0).toNat
  if b < 251 then (b, 1)
  else if b = 251 then (nullLength, 1)
  else if b = 252 then (leValue ((row.drop 1).take 2), 3)
  else if b = 253 then (leValue ((row.drop 1).take 3), 4)
  else (leValue ((row.drop 1).take 8), 9)

theorem lenencRef_spec : NetFieldLength lenencRef where
  lenenc n hn rest := by
    unfold lenenc
    split_ifs with h1 h2 h3
    · have hb : (UInt8.ofNat n).toNat = n := by
        rw [UInt8.toNat_ofNat']
        omega
      simp [lenencRef, hb, h1]
    · simp [lenencRef, leValue_leBytes]
      omega
    · simp [lenencRef, leValue_leBytes]
      omega
    · simp [lenencRef, leValue_leBytes]
      omega

section NetField

variable {netFieldLength : List UInt8 → Nat × Nat}

theorem NetFieldLength.of_lt (hnet : NetFieldLength netFieldLength) {b : UInt8}
    (hb : b.toNat < 251) (rest : List UInt8) : netFieldLength (b :: rest) = (b.toNat, 1) := by
  have hb' : LittleEndian.lenenc b.toNat = [b] := by simp [LittleEndian.lenenc, hb]
  have h := hnet.lenenc b.toNat (by omega) rest
  rwa [hb', List.singleton_append, List.length_singleton] at h

end NetField

/-- The temporal branches of `field_fetch_callback`: the length, cast to `uint8_t`, then the
fields, passed to the constructors unchecked; with how far `*row` moves. -/
def fetchBinaryTemporal (netFieldLength : List UInt8 → Nat × Nat) (type : FieldType)
    (row : List UInt8) : PyTemporal × Nat :=
  let l := netFieldLength row
  let len := l.1 % 256
  let p := row.drop l.2
  let byte (k : Nat) : Nat := (p.getD k 0).toNat
  match type with
  | .datetime | .timestamp =>
    if len = 0 then (pyDateTimeFromDateAndTime 0 0 0 0 0 0 0, l.2)
    else
      let hms := if 4 < len then (byte 4, byte 5, byte 6) else (0, 0, 0)
      let us := if len = 11 then leValue ((p.drop 7).take 4) else 0
      (pyDateTimeFromDateAndTime (leValue (p.take 2)) (byte 2) (byte 3) hms.1 hms.2.1 hms.2.2 us,
        l.2 + len)
  | .date =>
    if len = 0 then (pyDateFromDate 0 0 0, l.2)
    else (pyDateFromDate (leValue (p.take 2)) (byte 2) (byte 3), l.2 + len)
  | .time =>
    if len = 0 then (getTimeDelta MysqlTime.zero, l.2)
    else
      let day := leValue ((p.drop 1).take 4)
      let hour := (byte 5 + day * 24) % 2 ^ 32
      let us := if 8 < len then leValue ((p.drop 8).take 4) else 0
      (getTimeDelta ⟨0, 0, day, hour, byte 6, byte 7, us, byte 0 ≠ 0, .date⟩, l.2 + len)
  | _ => (.none, 0)

/-! ### What the server sends for a DATE -/

/-- A DATE as the server stores it; zero dates and dates with a zero month or day included. -/
structure DateValue where
  year : Nat
  month : Nat
  day : Nat
  year_le : year ≤ 9999
  month_le : month ≤ 12
  day_le : day ≤ 31

/-- The text of a DATE: `YYYY-MM-DD`. -/
def DateValue.text (v : DateValue) : List UInt8 :=
  padded 4 v.year ++ [45] ++ padded 2 v.month ++ [45] ++ padded 2 v.day

/-- The binary encoding of a DATE: no bytes for the zero date, else the year in two bytes, the
month and the day. -/
def DateValue.packed (v : DateValue) : List UInt8 :=
  if v.year = 0 ∧ v.month = 0 ∧ v.day = 0 then [0]
  else 4 :: encodeInt 2 v.year ++ [UInt8.ofNat v.month, UInt8.ofNat v.day]

/-- The zero date decodes to `None` from its text but leaves the `ValueError` of
`PyDate_FromDate(0,0,0)` pending from its binary encoding; and a date with day `0` passes
`check_date`, so its text raises too. -/
theorem fetch_zero_date_divergence {netFieldLength : List UInt8 → Nat × Nat}
    (hnet : NetFieldLength netFieldLength) :
    fetchTextTemporal .date (DateValue.text ⟨0, 0, 0, by norm_num, by norm_num, by norm_num⟩) =
        .none ∧
      (fetchBinaryTemporal netFieldLength .date
        (DateValue.packed ⟨0, 0, 0, by norm_num, by norm_num, by norm_num⟩)).1 = .error ∧
      fetchTextTemporal .date (DateValue.text ⟨2020, 1, 0, by norm_num, by norm_num, by norm_num⟩) =
        .error := by
  -- the zero date travels as the length byte 0 alone
  have hzero : DateValue.packed ⟨0, 0, 0, by norm_num, by norm_num, by norm_num⟩ = [0] := rfl
  refine ⟨by decide, ?_, by decide⟩
  rw [hzero, fetchBinaryTemporal, hnet.of_lt (by decide) []]
  decide

/-- Under the protocol's reading of lengths. -/
theorem fetch_zero_date_divergence_ref :
    NetFieldLength lenencRef ∧
      fetchTextTemporal .date (DateValue.text ⟨0, 0, 0, by norm_num, by norm_num, by norm_num⟩) =
          .none ∧
        (fetchBinaryTemporal lenencRef .date
          (DateValue.packed ⟨0, 0, 0, by norm_num, by norm_num, by norm_num⟩)).1 = .error ∧
        fetchTextTemporal .date
          (DateValue.text ⟨2020, 1, 0, by norm_num, by norm_num, by norm_num⟩) = .error :=
  ⟨lenencRef_spec, fetch_zero_date_divergence lenencRef_spec⟩

end MariadbConnector
