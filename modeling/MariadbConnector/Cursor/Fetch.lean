import MariadbConnector.Codecs.Types
import MariadbConnector.Lib.ListCursor

/-! The abstract model of a stored result set: its rows and the place of the data cursor as a
`ListCursor`, and `fetchone`, `fetchmany`, `fetchall` and `scroll` over it. A row is a type
parameter. -/

namespace MariadbConnector

/-- The part of a cursor that its fetch and scroll methods read and write, once `execute` has
stored a result set on the client. -/
structure ResultCursor (α : Type) where
  /-- `field_count`: zero for a statement without a result set. -/
  fieldCount : Nat
  /-- The rows stored and Connector/C's data cursor into them. -/
  result : ListCursor α
  /-- `row_number`, the member `_rownumber`. -/
  rowNumber : Nat
  /-- `is_buffered`, the member `buffered`. -/
  buffered : Bool
  /-- `row_array_size`, the `long` member `arraysize`. -/
  arraysize : Int64
  /-- The attribute `_rowcount` of the Python class. -/
  pyRowcount : Int
  /-- `CURSOR_AFFECTED_ROWS`. -/
  affectedRows : Int

variable {α : Type}

/-- What `execute` leaves: the rows stored with the data cursor before the first, `row_number`
zero, and `_rowcount` zero. -/
def ResultCursor.executed (fieldCount : Nat) (rows : List α) (buffered : Bool) (arraysize : Int64)
    (affectedRows : Int) : ResultCursor α :=
  ⟨fieldCount, .start rows, 0, buffered, arraysize, 0, affectedRows⟩

/-- The error of a fetch or a scroll on a cursor without a result set. -/
def noResultSet : PyError := ⟨.programmingError, "Cursor doesn't have a result set"⟩

/-- The error of `scroll` to a position out of range. -/
def positionOutOfRange : PyError := ⟨.programmingError, "Position value is out of range."⟩

/-- `MrdbCursor_seek`, `_seek(pos)`: `mysql_data_seek` or `mysql_stmt_data_seek` move the data
cursor to row `pos`, or to the end where `pos` passes it. -/
def ResultCursor.seek (c : ResultCursor α) (pos : Nat) : ResultCursor α :=
  { c with result := c.result.seek pos }

/-- `MrdbCursor_fetchinternal` on a stored result: `mysql_fetch_row` or `mysql_stmt_fetch` returns
the row at the data cursor and moves past it; at the end it returns nothing (`MYSQL_NO_DATA`). -/
def ResultCursor.fetchinternal (c : ResultCursor α) : Option (α × ResultCursor α) :=
  match c.result.next with
  | none => none
  | some (row, r) => some (row, { c with result := r })

/-- `MrdbCursor_fetchone`: `None` at the end, else the row, counted in `row_number`. -/
def ResultCursor.mrdbCursorFetchone (c : ResultCursor α) :
    ResultCursor α × Except PyError (Option α) :=
  if c.fieldCount = 0 then (c, .error noResultSet)
  else
    match c.fetchinternal with
    | none => (c, .ok none)
    | some (row, c') => ({ c' with rowNumber := c'.rowNumber + 1 }, .ok (some row))

/-- The loop of `MrdbCursor_fetchrows`,
`for (i= 0; i < row_count && !MrdbCursor_fetchinternal(self); i++)`: each row counted in
`row_number` and appended to the list. -/
def ResultCursor.fetchrowsLoop : Nat → ResultCursor α → List α × ResultCursor α
  | 0, c => ([], c)
  | n + 1, c =>
    match c.fetchinternal with
    | none => ([], c)
    | some (row, c') =>
      let r := ResultCursor.fetchrowsLoop n { c' with rowNumber := c'.rowNumber + 1 }
      (row :: r.1, r.2)

/-- `row_count= (uint64_t)PyLong_AsLongLong(rows)`: a negative `rows` wraps to `2 ^ 64` and more
than any result holds, and outside `long long` the conversion returns -1. -/
def rowCountOf (rows : Int) : Nat := (asLongLong rows % 2 ^ 64).toNat

/-- `MrdbCursor_fetchrows(rows)`. Outside `long long` the conversion of `rows` sets an
`OverflowError` that nothing checks: the loop reads to the end, and CPython turns the list
returned with an exception set into a `SystemError`. -/
def ResultCursor.mrdbCursorFetchrows (c : ResultCursor α) (rows : Int) :
    ResultCursor α × Except PyError (List α) :=
  if c.fieldCount = 0 then (c, .error noResultSet)
  else
    let r := ResultCursor.fetchrowsLoop (rowCountOf rows) c
    (r.2, if -2 ^ 63 ≤ rows ∧ rows < 2 ^ 63 then .ok r.1
      else .error ⟨.builtinError, "SystemError"⟩)

/-- `Cursor._fetch_row`. -/
def ResultCursor.fetchRow (c : ResultCursor α) : ResultCursor α × Except PyError (Option α) :=
  if c.fieldCount = 0 then (c, .error noResultSet) else c.mrdbCursorFetchone

/-- `Cursor.fetchone`, which returns what `_fetch_row` returns. -/
def ResultCursor.fetchone (c : ResultCursor α) : ResultCursor α × Except PyError (Option α) :=
  c.fetchRow

/-- `Cursor.fetchmany(size)`: a size of zero stands for `arraysize`. -/
def ResultCursor.fetchmany (c : ResultCursor α) (size : Int) :
    ResultCursor α × Except PyError (List α) :=
  c.mrdbCursorFetchrows (if size = 0 then c.arraysize.toInt else size)

/-- `ROWS_EOF`. -/
def rowsEof : Int := -1

/-- `Cursor.fetchall`. -/
def ResultCursor.fetchall (c : ResultCursor α) : ResultCursor α × Except PyError (List α) :=
  c.mrdbCursorFetchrows rowsEof

/-- `Mariadb_row_number`, the `rownumber` property. -/
def ResultCursor.rownumber (c : ResultCursor α) : Option Nat :=
  if c.fieldCount = 0 then none else some c.rowNumber

/-- `Mariadb_row_count` once a statement has run: `CURSOR_NUM_ROWS`, the rows stored, with a
result set, and `CURSOR_AFFECTED_ROWS` without. -/
def ResultCursor.mariadbRowCount (c : ResultCursor α) : Int :=
  if c.fieldCount ≠ 0 then c.result.items.length else c.affectedRows

/-- The `rowcount` property of an open cursor: `_rowcount` when positive, else
`Mariadb_row_count`. -/
def ResultCursor.rowcount (c : ResultCursor α) : Int :=
  if 0 < c.pyRowcount then c.pyRowcount else c.mariadbRowCount

/-- The `new_pos` of `scroll`, checked against `rowcount`: a relative target may be `rowcount`, an
absolute one may not. `self.rownumber` is `row_number` there, the cursor having a result set. -/
def ResultCursor.scrollTarget (c : ResultCursor α) (value : Int) (mode : String) :
    Except PyError Int :=
  if mode = "relative" then
    if (c.rowNumber : Int) + value < 0 ∨ c.rowcount < c.rowNumber + value then
      .error positionOutOfRange
    else .ok (c.rowNumber + value)
  else if value < 0 ∨ c.rowcount ≤ value then .error positionOutOfRange
  else .ok value

/-- `Cursor.scroll(value, mode)`: its checks in their order, then `_seek(new_pos)` and
`_rownumber = new_pos`. -/
def ResultCursor.scroll (c : ResultCursor α) (value : Int) (mode : String) :
    ResultCursor α × Except PyError Unit :=
  if c.fieldCount = 0 then (c, .error noResultSet)
  else if c.buffered = false then
    (c, .error ⟨.programmingError,
      "This method is available only for cursors with a buffered result set."⟩)
  else if mode ≠ "absolute" ∧ mode ≠ "relative" then
    (c, .error ⟨.programmingError, "Invalid or unknown scroll mode specified."⟩)
  else if value = 0 ∧ mode ≠ "absolute" then
    (c, .error ⟨.programmingError, "Invalid position value 0."⟩)
  else
    match c.scrollTarget value mode with
    | .error e => (c, .error e)
    | .ok p => ({ c.seek p.toNat with rowNumber := p.toNat }, .ok ())

/-- A call of the cursor's fetch and scroll methods. -/
inductive FetchCall
  | fetchone
  | fetchmany (size : Int)
  | fetchall
  | scroll (value : Int) (mode : String)
  deriving DecidableEq, Repr

/-- A fetch whose size `PyLong_AsLongLong` converts: `fetchone`, `fetchall`, and `fetchmany` of a
`long long`. -/
def FetchCall.LongLongFetch : FetchCall → Prop
  | .fetchone => True
  | .fetchmany size => -2 ^ 63 ≤ size ∧ size < 2 ^ 63
  | .fetchall => True
  | .scroll _ _ => False

instance : DecidablePred FetchCall.LongLongFetch := fun k =>
  match k with
  | .fetchone => isTrue trivial
  | .fetchmany size => inferInstanceAs (Decidable (-2 ^ 63 ≤ size ∧ size < 2 ^ 63))
  | .fetchall => isTrue trivial
  | .scroll _ _ => isFalse id

/-- The rows a fetch hands to its caller: none when it raises. -/
def handedOut : Except PyError (List α) → List α
  | .ok rows => rows
  | .error _ => []

/-- A call on the cursor: the cursor after it, and the rows it hands to the caller. -/
def ResultCursor.call (c : ResultCursor α) : FetchCall → ResultCursor α × List α
  | .fetchone => ((c.fetchone).1, handedOut ((c.fetchone).2.map Option.toList))
  | .fetchmany size => ((c.fetchmany size).1, handedOut (c.fetchmany size).2)
  | .fetchall => ((c.fetchall).1, handedOut (c.fetchall).2)
  | .scroll value mode => ((c.scroll value mode).1, [])

/-- A run of calls, each from the cursor the one before leaves, whether it raised or not: the
cursor at the end, and every row handed out, in order. -/
def ResultCursor.run : List FetchCall → ResultCursor α → ResultCursor α × List α
  | [], c => (c, [])
  | k :: ks, c =>
    let r := c.call k
    let t := ResultCursor.run ks r.1
    (t.1, r.2 ++ t.2)

/-! ### What each call does -/

variable {c : ResultCursor α}

@[simp] theorem ResultCursor.executed_result (fieldCount : Nat) (rows : List α) (buffered : Bool)
    (arraysize : Int64) (affectedRows : Int) :
    (ResultCursor.executed fieldCount rows buffered arraysize affectedRows).result =
      .start rows := rfl

@[simp] theorem ResultCursor.executed_rowNumber (fieldCount : Nat) (rows : List α)
    (buffered : Bool) (arraysize : Int64) (affectedRows : Int) :
    (ResultCursor.executed fieldCount rows buffered arraysize affectedRows).rowNumber = 0 := rfl

@[simp] theorem ResultCursor.executed_pyRowcount (fieldCount : Nat) (rows : List α)
    (buffered : Bool) (arraysize : Int64) (affectedRows : Int) :
    (ResultCursor.executed fieldCount rows buffered arraysize affectedRows).pyRowcount = 0 := rfl

@[simp] theorem handedOut_ok (rows : List α) :
    handedOut (.ok rows : Except PyError (List α)) = rows := rfl

@[simp] theorem handedOut_error (e : PyError) :
    handedOut (.error e : Except PyError (List α)) = [] := rfl

@[simp] theorem ResultCursor.seek_result (c : ResultCursor α) (pos : Nat) :
    (c.seek pos).result = c.result.seek pos := rfl

@[simp] theorem ResultCursor.seek_rowNumber (c : ResultCursor α) (pos : Nat) :
    (c.seek pos).rowNumber = c.rowNumber := rfl

@[simp] theorem ResultCursor.seek_fieldCount (c : ResultCursor α) (pos : Nat) :
    (c.seek pos).fieldCount = c.fieldCount := rfl

@[simp] theorem ResultCursor.seek_pyRowcount (c : ResultCursor α) (pos : Nat) :
    (c.seek pos).pyRowcount = c.pyRowcount := rfl

theorem ResultCursor.fetchrowsLoop_eq_read (n : Nat) (c : ResultCursor α) :
    ResultCursor.fetchrowsLoop n c =
      ((c.result.read n).1,
        { c with
          result := (c.result.read n).2
          rowNumber := c.rowNumber + (c.result.read n).1.length }) := by
  induction n generalizing c with
  | zero => rfl
  | succ n ih =>
    unfold ResultCursor.fetchrowsLoop ResultCursor.fetchinternal
    cases h : c.result.next with
    | none => simp [ListCursor.read, h]
    | some p =>
      obtain ⟨row, r⟩ := p
      simp only [ListCursor.read, h, ih, List.length_cons]
      simp only [Nat.add_assoc, Nat.add_comm 1]

theorem ResultCursor.fetchrowsLoop_fst (n : Nat) (c : ResultCursor α) :
    (ResultCursor.fetchrowsLoop n c).1 = c.result.remaining.take n := by
  rw [ResultCursor.fetchrowsLoop_eq_read, ListCursor.read_fst]

theorem ResultCursor.fetchrowsLoop_snd (n : Nat) (c : ResultCursor α) :
    (ResultCursor.fetchrowsLoop n c).2 =
      { c with
        result := c.result.seek (c.result.pos + n)
        rowNumber := c.rowNumber + (c.result.remaining.take n).length } := by
  rw [ResultCursor.fetchrowsLoop_eq_read, ListCursor.read_fst, ListCursor.read_snd]

/-- The rows the loop returns and the rows it leaves make up the rows left before it, and
`row_number` counts the rows returned. -/
theorem ResultCursor.fetchrowsLoop_accounts (n : Nat) (c : ResultCursor α) :
    (ResultCursor.fetchrowsLoop n c).1 ++ (ResultCursor.fetchrowsLoop n c).2.result.remaining =
        c.result.remaining ∧
      (ResultCursor.fetchrowsLoop n c).2.rowNumber =
        c.rowNumber + (ResultCursor.fetchrowsLoop n c).1.length := by
  rw [ResultCursor.fetchrowsLoop_eq_read]
  exact ⟨ListCursor.read_append_remaining n c.result, rfl⟩

theorem ResultCursor.mrdbCursorFetchone_eq_loop (hfc : c.fieldCount ≠ 0) :
    c.mrdbCursorFetchone =
      ((ResultCursor.fetchrowsLoop 1 c).2, .ok (ResultCursor.fetchrowsLoop 1 c).1.head?) := by
  unfold ResultCursor.mrdbCursorFetchone ResultCursor.fetchrowsLoop ResultCursor.fetchrowsLoop
  rw [if_neg hfc]
  cases c.fetchinternal with
  | none => rfl
  | some p => rfl

theorem ResultCursor.fetchone_eq_loop (hfc : c.fieldCount ≠ 0) :
    c.fetchone =
      ((ResultCursor.fetchrowsLoop 1 c).2, .ok (ResultCursor.fetchrowsLoop 1 c).1.head?) := by
  rw [ResultCursor.fetchone, ResultCursor.fetchRow, if_neg hfc,
    ResultCursor.mrdbCursorFetchone_eq_loop hfc]

theorem ResultCursor.fetchone_of_fieldCount_eq_zero (hfc : c.fieldCount = 0) :
    c.fetchone = (c, .error noResultSet) := by
  rw [ResultCursor.fetchone, ResultCursor.fetchRow, if_pos hfc]

theorem ResultCursor.mrdbCursorFetchrows_of_fieldCount_eq_zero (hfc : c.fieldCount = 0)
    (rows : Int) : c.mrdbCursorFetchrows rows = (c, .error noResultSet) := by
  rw [ResultCursor.mrdbCursorFetchrows, if_pos hfc]

theorem rowCountOf_of_nonneg {rows : Int} (h0 : 0 ≤ rows) (h : rows < 2 ^ 63) :
    rowCountOf rows = rows.toNat := by
  rw [rowCountOf, asLongLong_of_mem (by omega) h, Int.emod_eq_of_lt h0 (by omega)]

theorem rowCountOf_of_neg {rows : Int} (hlo : -2 ^ 63 ≤ rows) (h : rows < 0) :
    rowCountOf rows = (2 ^ 64 + rows).toNat := by
  rw [rowCountOf, asLongLong_of_mem hlo (by omega)]
  have hmod : rows % 2 ^ 64 = 2 ^ 64 + rows := by
    rw [← Int.add_emod_right, Int.emod_eq_of_lt (by omega) (by omega), Int.add_comm]
  rw [hmod]

theorem rowCountOf_of_overflow {rows : Int} (h : rows < -2 ^ 63 ∨ 2 ^ 63 ≤ rows) :
    rowCountOf rows = 2 ^ 64 - 1 := by
  have hout : ¬(-2 ^ 63 ≤ rows ∧ rows < 2 ^ 63) := by omega
  rw [rowCountOf, asLongLong, if_neg hout]
  rfl

theorem ResultCursor.mrdbCursorFetchrows_of_longLong (hfc : c.fieldCount ≠ 0) {rows : Int}
    (hlo : -2 ^ 63 ≤ rows) (hhi : rows < 2 ^ 63) :
    c.mrdbCursorFetchrows rows =
      ((ResultCursor.fetchrowsLoop (rowCountOf rows) c).2,
        .ok (ResultCursor.fetchrowsLoop (rowCountOf rows) c).1) := by
  simp only [ResultCursor.mrdbCursorFetchrows, if_neg hfc, if_pos (And.intro hlo hhi)]

theorem ResultCursor.mrdbCursorFetchrows_fst (hfc : c.fieldCount ≠ 0) (rows : Int) :
    (c.mrdbCursorFetchrows rows).1 = (ResultCursor.fetchrowsLoop (rowCountOf rows) c).2 := by
  rw [ResultCursor.mrdbCursorFetchrows, if_neg hfc]

theorem ResultCursor.scroll_of_error {value : Int} {mode : String} {e : PyError}
    (h : (c.scroll value mode).2 = .error e) : (c.scroll value mode).1 = c := by
  unfold ResultCursor.scroll at h ⊢
  split_ifs at h ⊢ <;> try rfl
  split at h
  · rfl
  · cases h

/-- A scroll that succeeds passed every check, and moves the data cursor and `row_number` to the
target it checked. -/
theorem ResultCursor.scroll_of_ok {value : Int} {mode : String}
    (h : (c.scroll value mode).2 = .ok ()) :
    c.fieldCount ≠ 0 ∧ c.buffered = true ∧ (mode = "absolute" ∨ mode = "relative") ∧
      (value = 0 → mode = "absolute") ∧
      ∃ p, c.scrollTarget value mode = .ok p ∧
        (c.scroll value mode).1 = { c.seek p.toNat with rowNumber := p.toNat } := by
  unfold ResultCursor.scroll at h ⊢
  split_ifs at h ⊢ with h0 hb hm hv
  split at h
  · cases h
  · next p hp =>
    refine ⟨h0, by simpa using hb, ?_, ?_, p, hp, rfl⟩
    · by_contra hn
      exact hm ⟨fun ha => hn (.inl ha), fun hr => hn (.inr hr)⟩
    · intro hz
      by_contra hn
      exact hv ⟨hz, hn⟩

/-- What `scroll` accepts: a relative target in `[0, rowcount]`, an absolute one in
`[0, rowcount)`. -/
theorem ResultCursor.scrollTarget_eq_ok_iff {value p : Int} {mode : String} :
    c.scrollTarget value mode = .ok p ↔
      (mode = "relative" ∧ p = c.rowNumber + value ∧ 0 ≤ p ∧ p ≤ c.rowcount) ∨
        (mode ≠ "relative" ∧ p = value ∧ 0 ≤ p ∧ p < c.rowcount) := by
  unfold ResultCursor.scrollTarget
  split_ifs with hm h1 h2 <;> simp [hm] <;> omega

theorem ResultCursor.mrdbCursorFetchrows_cases (c : ResultCursor α) (rows : Int) :
    (c.mrdbCursorFetchrows rows).1 = c ∨
      ∃ n, (c.mrdbCursorFetchrows rows).1 = (ResultCursor.fetchrowsLoop n c).2 := by
  by_cases hfc : c.fieldCount = 0
  · exact .inl (by rw [ResultCursor.mrdbCursorFetchrows_of_fieldCount_eq_zero hfc])
  · exact .inr ⟨_, ResultCursor.mrdbCursorFetchrows_fst hfc rows⟩

/-- What a call can do to the cursor: leave it as it was, run the loop of `fetchrows`, or, with
a result set, move the data cursor and `row_number` to a row no further than `rowcount`. -/
theorem ResultCursor.call_cases (c : ResultCursor α) (k : FetchCall) :
    (c.call k).1 = c ∨ (∃ n, (c.call k).1 = (ResultCursor.fetchrowsLoop n c).2) ∨
      ∃ p : Nat, c.fieldCount ≠ 0 ∧ (p : Int) ≤ c.rowcount ∧
        (c.call k).1 = { c.seek p with rowNumber := p } := by
  cases k with
  | fetchone =>
    by_cases hfc : c.fieldCount = 0
    · exact .inl (by rw [ResultCursor.call, ResultCursor.fetchone_of_fieldCount_eq_zero hfc])
    · exact .inr (.inl ⟨1, by rw [ResultCursor.call, ResultCursor.fetchone_eq_loop hfc]⟩)
  | fetchmany size =>
    rcases c.mrdbCursorFetchrows_cases (if size = 0 then c.arraysize.toInt else size) with h | h
    · exact .inl h
    · exact .inr (.inl h)
  | fetchall =>
    rcases c.mrdbCursorFetchrows_cases rowsEof with h | h
    · exact .inl h
    · exact .inr (.inl h)
  | scroll value mode =>
    cases hr : (c.scroll value mode).2 with
    | error e => exact .inl (ResultCursor.scroll_of_error hr)
    | ok u =>
      obtain ⟨hfc, -, -, -, p, hp, hs⟩ := ResultCursor.scroll_of_ok hr
      rw [ResultCursor.scrollTarget_eq_ok_iff] at hp
      exact .inr (.inr ⟨p.toNat, hfc, by omega, hs⟩)

theorem ResultCursor.run_invariant (P : ResultCursor α → Prop)
    (hstep : ∀ c k, P c → P (c.call k).1) : ∀ (ks : List FetchCall) c, P c → P (c.run ks).1
  | [], _, hc => hc
  | k :: ks, c, hc => ResultCursor.run_invariant P hstep ks _ (hstep c k hc)

theorem ResultCursor.call_frame (c : ResultCursor α) (k : FetchCall) :
    (c.call k).1.result.items = c.result.items ∧ (c.call k).1.fieldCount = c.fieldCount ∧
      (c.call k).1.buffered = c.buffered ∧ (c.call k).1.arraysize = c.arraysize ∧
      (c.call k).1.pyRowcount = c.pyRowcount := by
  rcases c.call_cases k with hc | ⟨n, hn⟩ | ⟨p, -, -, hs⟩
  · simp [hc]
  · simp [hn, ResultCursor.fetchrowsLoop_snd]
  · simp [hs, ResultCursor.seek]

theorem ResultCursor.run_frame (ks : List FetchCall) (c : ResultCursor α) :
    (c.run ks).1.result.items = c.result.items ∧ (c.run ks).1.fieldCount = c.fieldCount ∧
      (c.run ks).1.buffered = c.buffered ∧ (c.run ks).1.arraysize = c.arraysize ∧
      (c.run ks).1.pyRowcount = c.pyRowcount := by
  refine ResultCursor.run_invariant (fun d => d.result.items = c.result.items ∧
    d.fieldCount = c.fieldCount ∧ d.buffered = c.buffered ∧ d.arraysize = c.arraysize ∧
    d.pyRowcount = c.pyRowcount) ?_ ks c ⟨rfl, rfl, rfl, rfl, rfl⟩
  intro d k hd
  obtain ⟨h1, h2, h3, h4, h5⟩ := ResultCursor.call_frame d k
  rw [h1, h2, h3, h4, h5]
  exact hd

/-! ### The data cursor follows `rownumber` -/

/-- The data cursor is at row `row_number`, or at the end where that passes the rows stored. -/
def ResultCursor.AtRowNumber (c : ResultCursor α) : Prop :=
  c.result.pos = min c.rowNumber c.result.items.length

theorem ResultCursor.atRowNumber_executed (fieldCount : Nat) (rows : List α) (buffered : Bool)
    (arraysize : Int64) (affectedRows : Int) :
    (ResultCursor.executed fieldCount rows buffered arraysize affectedRows).AtRowNumber := by
  simp [ResultCursor.AtRowNumber]

theorem ResultCursor.AtRowNumber.remaining_eq (h : c.AtRowNumber) :
    c.result.remaining = c.result.items.drop c.rowNumber := by
  have hseek : c.result.seek c.rowNumber = c.result := by
    ext
    · rfl
    · exact h.symm
  calc c.result.remaining = (c.result.seek c.rowNumber).remaining := by rw [hseek]
    _ = c.result.items.drop c.rowNumber := ListCursor.remaining_seek _ _

theorem ResultCursor.AtRowNumber.fetchrowsLoop (h : c.AtRowNumber) (n : Nat) :
    (ResultCursor.fetchrowsLoop n c).2.AtRowNumber := by
  have hle := c.result.pos_le
  unfold ResultCursor.AtRowNumber at h ⊢
  rw [ResultCursor.fetchrowsLoop_snd]
  simp only [ListCursor.seek_pos, ListCursor.seek_items, List.length_take, ListCursor.remaining,
    List.length_drop]
  omega

/-- Every call keeps the data cursor at `row_number`: the loop moves both by the rows it reads,
and `scroll` writes the row it seeks to into `_rownumber`, whatever that row is. -/
theorem ResultCursor.AtRowNumber.call (h : c.AtRowNumber) (k : FetchCall) :
    (c.call k).1.AtRowNumber := by
  rcases c.call_cases k with hc | ⟨n, hn⟩ | ⟨p, -, -, hs⟩
  · rw [hc]
    exact h
  · rw [hn]
    exact h.fetchrowsLoop n
  · rw [hs]
    simp [ResultCursor.AtRowNumber, ResultCursor.seek]

theorem ResultCursor.AtRowNumber.fetchone_snd (h : c.AtRowNumber) (hfc : c.fieldCount ≠ 0) :
    (c.fetchone).2 = .ok c.result.items[c.rowNumber]? := by
  rw [ResultCursor.fetchone_eq_loop hfc, ResultCursor.fetchrowsLoop_fst, h.remaining_eq,
    List.head?_take, if_neg Nat.one_ne_zero, List.head?_drop]

/-- **`fetchone` returns the row `rownumber` names.** From a cursor whose data cursor is at row
`row_number`, as `execute` leaves it, after any run of `fetchone`, `fetchmany`, `fetchall` and
`scroll` calls, with any arguments and whether they raise or not, `rownumber` is `row_number`
and the next `fetchone` returns the row of that number of the rows stored, or `None` when it
passes the last. -/
theorem fetchone_after_run_returns_rownumber_row {c : ResultCursor α} (h : c.AtRowNumber)
    (hfc : c.fieldCount ≠ 0) (ks : List FetchCall) :
    (c.run ks).1.rownumber = some (c.run ks).1.rowNumber ∧
      ((c.run ks).1.fetchone).2 = .ok c.result.items[(c.run ks).1.rowNumber]? := by
  obtain ⟨hitems, hfc', -, -, -⟩ := ResultCursor.run_frame ks c
  have hat : (c.run ks).1.AtRowNumber :=
    ResultCursor.run_invariant ResultCursor.AtRowNumber (fun _ k hd => hd.call k) ks c h
  refine ⟨by rw [ResultCursor.rownumber, if_neg (hfc' ▸ hfc)], ?_⟩
  rw [hat.fetchone_snd (hfc' ▸ hfc), hitems]

/-! ### `rownumber` within the rows stored -/

/-- `row_number` and `_rowcount` within the rows stored: the data cursor is then at row
`row_number` itself. -/
structure ResultCursor.Synced (c : ResultCursor α) : Prop where
  atRowNumber : c.AtRowNumber
  rowNumber_le : c.rowNumber ≤ c.result.items.length
  pyRowcount_le : c.pyRowcount ≤ c.result.items.length

theorem ResultCursor.synced_executed (fieldCount : Nat) (rows : List α) (buffered : Bool)
    (arraysize : Int64) (affectedRows : Int) :
    (ResultCursor.executed fieldCount rows buffered arraysize affectedRows).Synced where
  atRowNumber := ResultCursor.atRowNumber_executed _ _ _ _ _
  rowNumber_le := Nat.zero_le _
  pyRowcount_le := by simp

theorem ResultCursor.Synced.pos_eq (h : c.Synced) : c.result.pos = c.rowNumber := by
  have hat := h.atRowNumber
  have hle := h.rowNumber_le
  unfold ResultCursor.AtRowNumber at hat
  omega

theorem ResultCursor.Synced.rowcount_le (h : c.Synced) (hfc : c.fieldCount ≠ 0) :
    c.rowcount ≤ c.result.items.length := by
  have hpy := h.pyRowcount_le
  unfold ResultCursor.rowcount ResultCursor.mariadbRowCount
  split_ifs <;> omega

theorem ResultCursor.Synced.fetchrowsLoop (h : c.Synced) (n : Nat) :
    (ResultCursor.fetchrowsLoop n c).2.Synced where
  atRowNumber := h.atRowNumber.fetchrowsLoop n
  rowNumber_le := by
    have hpos := h.pos_eq
    have hle := c.result.pos_le
    rw [ResultCursor.fetchrowsLoop_snd]
    simp only [ListCursor.seek_items, List.length_take, ListCursor.remaining, List.length_drop]
    omega
  pyRowcount_le := by
    rw [ResultCursor.fetchrowsLoop_snd]
    exact h.pyRowcount_le

/-- Every call keeps `row_number` within the rows stored: `scroll` checks its target against
`rowcount`, which passes none of them. -/
theorem ResultCursor.Synced.call (h : c.Synced) (k : FetchCall) : (c.call k).1.Synced := by
  rcases c.call_cases k with hc | ⟨n, hn⟩ | ⟨p, hfc, hp, hs⟩
  · rw [hc]
    exact h
  · rw [hn]
    exact h.fetchrowsLoop n
  · have hrc := h.rowcount_le hfc
    rw [hs]
    exact ⟨by simp [ResultCursor.AtRowNumber, ResultCursor.seek], by simp; omega,
      by simpa using h.pyRowcount_le⟩

/-- **`rownumber` never passes the rows stored.** From what `execute` leaves, after any run of
`fetchone`, `fetchmany`, `fetchall` and `scroll` calls, the data cursor is at row `rownumber`
itself, and `rownumber` is at most the number of rows stored: fetches stop at the end, and
`scroll` checks its target against `rowcount`. -/
theorem run_rownumber_within_rows (fieldCount : Nat) (rows : List α) (buffered : Bool)
    (arraysize : Int64) (affected : Int) (ks : List FetchCall) :
    ((ResultCursor.executed fieldCount rows buffered arraysize affected).run ks).1.result.pos =
        ((ResultCursor.executed fieldCount rows buffered arraysize affected).run ks).1.rowNumber ∧
      ((ResultCursor.executed fieldCount rows buffered arraysize affected).run ks).1.rowNumber ≤
        rows.length := by
  have h := ResultCursor.run_invariant ResultCursor.Synced (fun _ k hd => hd.call k) ks _
    (ResultCursor.synced_executed fieldCount rows buffered arraysize affected)
  have hitems := (ResultCursor.run_frame ks
    (ResultCursor.executed fieldCount rows buffered arraysize affected)).1
  refine ⟨h.pos_eq, ?_⟩
  simpa [hitems] using h.rowNumber_le

/-! ### Every row once, in order -/

/-- The rows handed out and the rows left make up the rows left before, and `row_number` counts
the rows handed out. -/
def ResultCursor.Accounts (c : ResultCursor α) (r : ResultCursor α × List α) : Prop :=
  r.2 ++ r.1.result.remaining = c.result.remaining ∧ r.1.rowNumber = c.rowNumber + r.2.length

theorem ResultCursor.accounts_self (c : ResultCursor α) : c.Accounts (c, []) := by
  simp [ResultCursor.Accounts]

theorem ResultCursor.mrdbCursorFetchrows_accounts {rows : Int} (hlo : -2 ^ 63 ≤ rows)
    (hhi : rows < 2 ^ 63) (c : ResultCursor α) :
    c.Accounts ((c.mrdbCursorFetchrows rows).1, handedOut (c.mrdbCursorFetchrows rows).2) := by
  by_cases hfc : c.fieldCount = 0
  · rw [ResultCursor.mrdbCursorFetchrows_of_fieldCount_eq_zero hfc]
    exact c.accounts_self
  · rw [ResultCursor.mrdbCursorFetchrows_of_longLong hfc hlo hhi]
    exact ResultCursor.fetchrowsLoop_accounts _ c

theorem ResultCursor.call_accounts (c : ResultCursor α) {k : FetchCall} (hk : k.LongLongFetch) :
    c.Accounts (c.call k) := by
  cases k with
  | fetchone =>
    by_cases hfc : c.fieldCount = 0
    · simpa [ResultCursor.call, ResultCursor.fetchone_of_fieldCount_eq_zero hfc, Except.map] using
        c.accounts_self
    · -- the one row `fetchone` returns is the loop's one-row list
      have hone : (ResultCursor.fetchrowsLoop 1 c).1.head?.toList =
          (ResultCursor.fetchrowsLoop 1 c).1 := by
        rw [ResultCursor.fetchrowsLoop_fst, List.head?_take, if_neg Nat.one_ne_zero,
          ← List.take_one]
      simpa [ResultCursor.Accounts, ResultCursor.call, ResultCursor.fetchone_eq_loop hfc, hone,
        Except.map] using ResultCursor.fetchrowsLoop_accounts 1 c
  | fetchmany size =>
    by_cases hz : size = 0
    · -- `arraysize` is a `long`, which always converts
      simpa [ResultCursor.call, ResultCursor.fetchmany, hz] using
        ResultCursor.mrdbCursorFetchrows_accounts (Int64.le_toInt c.arraysize)
          (Int64.toInt_lt c.arraysize) c
    · simpa [ResultCursor.call, ResultCursor.fetchmany, hz] using
        ResultCursor.mrdbCursorFetchrows_accounts hk.1 hk.2 c
  | fetchall =>
    exact ResultCursor.mrdbCursorFetchrows_accounts (by decide) (by decide) c
  | scroll value mode => exact hk.elim

/-- Over a run of fetches that convert their sizes, the rows handed out are the rows moved past,
each once and in order. -/
theorem ResultCursor.run_accounts :
    ∀ (ks : List FetchCall) (c : ResultCursor α), (∀ k ∈ ks, k.LongLongFetch) →
      c.Accounts (c.run ks)
  | [], c, _ => c.accounts_self
  | k :: ks, c, hks => by
    obtain ⟨h1, h2⟩ := c.call_accounts (hks k List.mem_cons_self)
    obtain ⟨t1, t2⟩ := ResultCursor.run_accounts ks (c.call k).1
      (fun k' hk' => hks k' (List.mem_cons_of_mem k hk'))
    refine ⟨?_, ?_⟩
    · simp only [ResultCursor.run]
      rw [List.append_assoc, t1, h1]
    · simp only [ResultCursor.run, List.length_append]
      rw [t2, h2, Nat.add_assoc]

/-- **Fetches hand out every row once, in order.** From what `execute` leaves, over any run of
`fetchone`, `fetchmany` and `fetchall` calls whose sizes are `long long` values, the rows handed
out are the first `rownumber` rows of the result in their order, and the rows a later fetch can
still return are the rest: no row is skipped or handed out twice. -/
theorem fetch_run_hands_out_rows_in_order (fieldCount : Nat) (rows : List α) (buffered : Bool)
    (arraysize : Int64) (affectedRows : Int) (ks : List FetchCall)
    (hks : ∀ k ∈ ks, k.LongLongFetch) :
    ((ResultCursor.executed fieldCount rows buffered arraysize affectedRows).run ks).2 =
        rows.take ((ResultCursor.executed fieldCount rows buffered arraysize affectedRows).run
          ks).1.rowNumber ∧
      ((ResultCursor.executed fieldCount rows buffered arraysize affectedRows).run ks).2 ++
          ((ResultCursor.executed fieldCount rows buffered arraysize affectedRows).run
            ks).1.result.remaining = rows := by
  obtain ⟨happ, hnum⟩ := ResultCursor.run_accounts ks
    (ResultCursor.executed fieldCount rows buffered arraysize affectedRows) hks
  simp only [ResultCursor.executed_result, ResultCursor.executed_rowNumber,
    ListCursor.start_remaining, Nat.zero_add] at happ hnum
  generalize (ResultCursor.executed fieldCount rows buffered arraysize affectedRows).run ks = r
    at happ hnum ⊢
  refine ⟨?_, happ⟩
  -- what was handed out is the part of the rows before what is left
  rw [hnum, ← happ, List.take_left' rfl]

/-! ### A `fetchmany` size past `long long` -/

/-- **A size past `long long` loses the rows left.** With a result set of fewer than `2 ^ 64`
rows, `fetchmany(size)` for a `size` outside `long long` raises `SystemError`, yet it has moved
the data cursor to the end and counted every row left in `rownumber`: those rows are never
handed out, and a later fetch finds none. -/
theorem fetchmany_overflow_loses_rows {c : ResultCursor α} (hfc : c.fieldCount ≠ 0)
    (hrows : c.result.items.length < 2 ^ 64) {size : Int}
    (hsize : size < -2 ^ 63 ∨ 2 ^ 63 ≤ size) :
    (c.fetchmany size).2 = .error ⟨.builtinError, "SystemError"⟩ ∧
      (c.fetchmany size).1.result.remaining = [] ∧
      (c.fetchmany size).1.rowNumber = c.rowNumber + c.result.remaining.length := by
  have hz : size ≠ 0 := by omega
  have hout : ¬(-2 ^ 63 ≤ size ∧ size < 2 ^ 63) := by omega
  -- the count `-1` passes every row left, so the loop takes them all
  have hrem : c.result.remaining.length ≤ rowCountOf size := by
    rw [rowCountOf_of_overflow hsize]
    simp only [ListCursor.remaining, List.length_drop]
    omega
  have hacc := ResultCursor.fetchrowsLoop_accounts (rowCountOf size) c
  rw [ResultCursor.fetchrowsLoop_fst, List.take_of_length_le hrem] at hacc
  simp only [ResultCursor.fetchmany, if_neg hz, ResultCursor.mrdbCursorFetchrows, if_neg hfc,
    if_neg hout]
  exact ⟨trivial, by simpa using hacc.1, hacc.2⟩

end MariadbConnector
