import MariadbConnector.Cursor.Fetch

/-! `MrdbCursor_fetchinternal`, `_seek` and `rowcount` over Connector/C's data cursor, a parameter.
On a buffered cursor it acts as a `ListCursor` (`DataCursor.Stores`), and the methods refine
`ResultCursor`. -/

namespace MariadbConnector

/-- What `mysql_stmt_fetch` or `mysql_fetch_row` gives `MrdbCursor_fetchinternal`. -/
inductive FetchOutcome (α σ : Type)
  /-- The next row's values. -/
  | row (values : α) (next : σ)
  /-- `MYSQL_NO_DATA`, or `NULL` from `mysql_fetch_row` at the end. -/
  | noData
  /-- An error, the return `1` of `mysql_stmt_fetch` or `NULL` from `mysql_fetch_row`, with the
  values array as it was left. -/
  | error (values : α) (next : σ)

/-- Connector/C's calls on a result set: the fetch, the seek, and the row count. -/
structure DataCursor (σ α : Type) where
  fetch : σ → FetchOutcome α σ
  seek : σ → Nat → σ
  numRows : σ → Nat

variable {σ α : Type}

/-- What a result stored on the client gives, read through `v` as its rows and the place of the
data cursor: a fetch returns the row at the cursor and moves past it, `MYSQL_NO_DATA` at the end,
and never fails; a seek moves to the row, or to the end; the row count counts the rows stored. -/
structure DataCursor.Stores (dc : DataCursor σ α) (v : σ → ListCursor α) : Prop where
  row : ∀ s a s', dc.fetch s = .row a s' → (v s).next = some (a, v s')
  noData : ∀ s, dc.fetch s = .noData → (v s).next = none
  no_error : ∀ s a s', dc.fetch s ≠ .error a s'
  seek : ∀ s n, v (dc.seek s n) = (v s).seek n
  numRows : ∀ s, dc.numRows s = (v s).items.length

/-- A `ListCursor` as the data cursor of its own rows. -/
def listDataCursor : DataCursor (ListCursor α) α where
  fetch l := match l.next with
    | some (a, l') => .row a l'
    | none => .noData
  seek := ListCursor.seek
  numRows l := l.items.length

theorem listDataCursor_stores : (listDataCursor : DataCursor (ListCursor α) α).Stores id where
  row s a s' h := by
    simp only [listDataCursor] at h
    split at h
    · cases h
      assumption
    · cases h
  noData s h := by
    simp only [listDataCursor] at h
    split at h
    · cases h
    · assumption
  no_error s a s' h := by
    simp only [listDataCursor] at h
    split at h <;> cases h
  seek _ _ := rfl
  numRows _ := rfl

/-- The part of a cursor its fetch and scroll methods read and write, over Connector/C's result
`σ`. -/
structure FetchCursor (σ : Type) where
  fieldCount : Nat
  result : σ
  rowNumber : Nat
  buffered : Bool
  /-- `parseinfo.is_text`: the protocol the result came over. -/
  isText : Bool
  arraysize : Int64
  pyRowcount : Int
  affectedRows : Int

/-- What `execute` leaves on a buffered cursor: the result stored, `row_number` and `_rowcount`
zero. -/
def FetchCursor.executed (fieldCount : Nat) (s : σ) (isText : Bool) (arraysize : Int64)
    (affectedRows : Int) : FetchCursor σ :=
  ⟨fieldCount, s, 0, true, isText, arraysize, 0, affectedRows⟩

section Methods

variable (dc : DataCursor σ α)

/-- `MrdbCursor_seek`. -/
def FetchCursor.seek (c : FetchCursor σ) (pos : Nat) : FetchCursor σ :=
  { c with result := dc.seek c.result pos }

/-- `MrdbCursor_fetchinternal`: no row for `MYSQL_NO_DATA`, and on the text protocol for any
`NULL` from `mysql_fetch_row`; on the binary protocol an error return is not `MYSQL_NO_DATA`, so
it counts as a row. -/
def FetchCursor.fetchinternal (c : FetchCursor σ) : Option (α × FetchCursor σ) :=
  match dc.fetch c.result with
  | .row a s => some (a, { c with result := s })
  | .noData => none
  | .error a s => if c.isText then none else some (a, { c with result := s })

/-- `MrdbCursor_fetchone`. -/
def FetchCursor.mrdbCursorFetchone (c : FetchCursor σ) :
    FetchCursor σ × Except PyError (Option α) :=
  if c.fieldCount = 0 then (c, .error noResultSet)
  else
    match c.fetchinternal dc with
    | none => (c, .ok none)
    | some (row, c') => ({ c' with rowNumber := c'.rowNumber + 1 }, .ok (some row))

/-- The loop of `MrdbCursor_fetchrows`. -/
def FetchCursor.fetchrowsLoop : Nat → FetchCursor σ → List α × FetchCursor σ
  | 0, c => ([], c)
  | n + 1, c =>
    match c.fetchinternal dc with
    | none => ([], c)
    | some (row, c') =>
      let r := FetchCursor.fetchrowsLoop n { c' with rowNumber := c'.rowNumber + 1 }
      (row :: r.1, r.2)

/-- `MrdbCursor_fetchrows(rows)`. -/
def FetchCursor.mrdbCursorFetchrows (c : FetchCursor σ) (rows : Int) :
    FetchCursor σ × Except PyError (List α) :=
  if c.fieldCount = 0 then (c, .error noResultSet)
  else
    let r := FetchCursor.fetchrowsLoop dc (rowCountOf rows) c
    (r.2, if -2 ^ 63 ≤ rows ∧ rows < 2 ^ 63 then .ok r.1
      else .error ⟨.builtinError, "SystemError"⟩)

/-- `Cursor.fetchone`, through `_fetch_row`. -/
def FetchCursor.fetchone (c : FetchCursor σ) : FetchCursor σ × Except PyError (Option α) :=
  if c.fieldCount = 0 then (c, .error noResultSet) else c.mrdbCursorFetchone dc

/-- `Cursor.fetchmany(size)`. -/
def FetchCursor.fetchmany (c : FetchCursor σ) (size : Int) :
    FetchCursor σ × Except PyError (List α) :=
  c.mrdbCursorFetchrows dc (if size = 0 then c.arraysize.toInt else size)

/-- `Cursor.fetchall`. -/
def FetchCursor.fetchall (c : FetchCursor σ) : FetchCursor σ × Except PyError (List α) :=
  c.mrdbCursorFetchrows dc rowsEof

/-- `Mariadb_row_number`. -/
def FetchCursor.rownumber (c : FetchCursor σ) : Option Nat :=
  if c.fieldCount = 0 then none else some c.rowNumber

/-- `Mariadb_row_count`: `CURSOR_NUM_ROWS` with a result set, `CURSOR_AFFECTED_ROWS` without. -/
def FetchCursor.mariadbRowCount (c : FetchCursor σ) : Int :=
  if c.fieldCount ≠ 0 then dc.numRows c.result else c.affectedRows

/-- The `rowcount` property. -/
def FetchCursor.rowcount (c : FetchCursor σ) : Int :=
  if 0 < c.pyRowcount then c.pyRowcount else c.mariadbRowCount dc

/-- The `new_pos` of `scroll`, checked against `rowcount`. -/
def FetchCursor.scrollTarget (c : FetchCursor σ) (value : Int) (mode : String) :
    Except PyError Int :=
  if mode = "relative" then
    if (c.rowNumber : Int) + value < 0 ∨ c.rowcount dc < c.rowNumber + value then
      .error positionOutOfRange
    else .ok (c.rowNumber + value)
  else if value < 0 ∨ c.rowcount dc ≤ value then .error positionOutOfRange
  else .ok value

/-- `Cursor.scroll(value, mode)`. -/
def FetchCursor.scroll (c : FetchCursor σ) (value : Int) (mode : String) :
    FetchCursor σ × Except PyError Unit :=
  if c.fieldCount = 0 then (c, .error noResultSet)
  else if c.buffered = false then
    (c, .error ⟨.programmingError,
      "This method is available only for cursors with a buffered result set."⟩)
  else if mode ≠ "absolute" ∧ mode ≠ "relative" then
    (c, .error ⟨.programmingError, "Invalid or unknown scroll mode specified."⟩)
  else if value = 0 ∧ mode ≠ "absolute" then
    (c, .error ⟨.programmingError, "Invalid position value 0."⟩)
  else
    match c.scrollTarget dc value mode with
    | .error e => (c, .error e)
    | .ok p => ({ c.seek dc p.toNat with rowNumber := p.toNat }, .ok ())

/-- A call on the cursor: the cursor after it, and the rows it hands to the caller. -/
def FetchCursor.call (c : FetchCursor σ) : FetchCall → FetchCursor σ × List α
  | .fetchone => ((c.fetchone dc).1, handedOut ((c.fetchone dc).2.map Option.toList))
  | .fetchmany size => ((c.fetchmany dc size).1, handedOut (c.fetchmany dc size).2)
  | .fetchall => ((c.fetchall dc).1, handedOut (c.fetchall dc).2)
  | .scroll value mode => ((c.scroll dc value mode).1, [])

/-- A run of calls: the cursor at the end, and every row handed out, in order. -/
def FetchCursor.run : List FetchCall → FetchCursor σ → FetchCursor σ × List α
  | [], c => (c, [])
  | k :: ks, c =>
    let r := c.call dc k
    let t := FetchCursor.run ks r.1
    (t.1, r.2 ++ t.2)

end Methods

/-! ### The stored result the cursor reads -/

/-- The cursor as `Fetch` models it, with its result read through `v`. -/
def FetchCursor.toResult (v : σ → ListCursor α) (c : FetchCursor σ) : ResultCursor α :=
  ⟨c.fieldCount, v c.result, c.rowNumber, c.buffered, c.arraysize, c.pyRowcount, c.affectedRows⟩

section Simulation

variable {dc : DataCursor σ α} {v : σ → ListCursor α}

@[simp] theorem FetchCursor.toResult_result (c : FetchCursor σ) :
    (c.toResult v).result = v c.result := rfl

@[simp] theorem FetchCursor.toResult_rowNumber (c : FetchCursor σ) :
    (c.toResult v).rowNumber = c.rowNumber := rfl

@[simp] theorem FetchCursor.toResult_fieldCount (c : FetchCursor σ) :
    (c.toResult v).fieldCount = c.fieldCount := rfl

@[simp] theorem FetchCursor.toResult_buffered (c : FetchCursor σ) :
    (c.toResult v).buffered = c.buffered := rfl

@[simp] theorem FetchCursor.toResult_arraysize (c : FetchCursor σ) :
    (c.toResult v).arraysize = c.arraysize := rfl

theorem FetchCursor.toResult_executed (fieldCount : Nat) {s : σ} {rows : List α}
    (hs : v s = .start rows) (isText : Bool) (arraysize : Int64) (affectedRows : Int) :
    (FetchCursor.executed fieldCount s isText arraysize affectedRows).toResult v =
      .executed fieldCount rows true arraysize affectedRows := by
  simp [FetchCursor.executed, FetchCursor.toResult, ResultCursor.executed, hs]

theorem FetchCursor.fetchinternal_toResult (hdc : dc.Stores v) (c : FetchCursor σ) :
    (c.fetchinternal dc).map (fun r => (r.1, r.2.toResult v)) = (c.toResult v).fetchinternal := by
  unfold FetchCursor.fetchinternal ResultCursor.fetchinternal
  cases h : dc.fetch c.result with
  | row a s => simp only [FetchCursor.toResult_result, hdc.row _ _ _ h]; rfl
  | noData => simp only [FetchCursor.toResult_result, hdc.noData _ h]; rfl
  | error a s => exact absurd h (hdc.no_error _ _ _)

theorem FetchCursor.mrdbCursorFetchone_toResult (hdc : dc.Stores v) (c : FetchCursor σ) :
    Prod.map (FetchCursor.toResult v) id (c.mrdbCursorFetchone dc) =
      (c.toResult v).mrdbCursorFetchone := by
  have h := FetchCursor.fetchinternal_toResult hdc c
  unfold FetchCursor.mrdbCursorFetchone ResultCursor.mrdbCursorFetchone
  by_cases hfc : c.fieldCount = 0
  · simp [hfc]
  · have hfc' : (c.toResult v).fieldCount ≠ 0 := hfc
    rw [if_neg hfc, if_neg hfc']
    cases hf : c.fetchinternal dc with
    | none =>
      rw [hf] at h
      rw [← h]
      rfl
    | some r =>
      rw [hf] at h
      rw [← h]
      rfl

theorem FetchCursor.fetchrowsLoop_toResult (hdc : dc.Stores v) :
    ∀ (n : Nat) (c : FetchCursor σ),
      Prod.map id (FetchCursor.toResult v) (FetchCursor.fetchrowsLoop dc n c) =
        ResultCursor.fetchrowsLoop n (c.toResult v)
  | 0, _ => rfl
  | n + 1, c => by
    have h := FetchCursor.fetchinternal_toResult hdc c
    unfold FetchCursor.fetchrowsLoop ResultCursor.fetchrowsLoop
    cases hf : c.fetchinternal dc with
    | none =>
      rw [hf] at h
      rw [← h]
      rfl
    | some r =>
      rw [hf] at h
      rw [← h]
      -- the rest of the loop runs from the cursor past the row
      have ih := FetchCursor.fetchrowsLoop_toResult hdc n
        { r.2 with rowNumber := r.2.rowNumber + 1 }
      exact congrArg (fun p => (r.1 :: p.1, p.2)) ih

theorem FetchCursor.mrdbCursorFetchrows_toResult (hdc : dc.Stores v) (c : FetchCursor σ)
    (rows : Int) :
    Prod.map (FetchCursor.toResult v) id (c.mrdbCursorFetchrows dc rows) =
      (c.toResult v).mrdbCursorFetchrows rows := by
  unfold FetchCursor.mrdbCursorFetchrows ResultCursor.mrdbCursorFetchrows
  by_cases hfc : c.fieldCount = 0
  · simp [hfc]
  · have hfc' : (c.toResult v).fieldCount ≠ 0 := hfc
    rw [if_neg hfc, if_neg hfc', ← FetchCursor.fetchrowsLoop_toResult hdc]
    rfl

theorem FetchCursor.fetchone_toResult (hdc : dc.Stores v) (c : FetchCursor σ) :
    Prod.map (FetchCursor.toResult v) id (c.fetchone dc) = (c.toResult v).fetchone := by
  unfold FetchCursor.fetchone ResultCursor.fetchone ResultCursor.fetchRow
  by_cases hfc : c.fieldCount = 0
  · simp [hfc]
  · have hfc' : (c.toResult v).fieldCount ≠ 0 := hfc
    rw [if_neg hfc, if_neg hfc']
    exact FetchCursor.mrdbCursorFetchone_toResult hdc c

theorem FetchCursor.rowcount_toResult (hdc : dc.Stores v) (c : FetchCursor σ) :
    c.rowcount dc = (c.toResult v).rowcount := by
  unfold FetchCursor.rowcount ResultCursor.rowcount FetchCursor.mariadbRowCount
    ResultCursor.mariadbRowCount
  by_cases hfc : c.fieldCount = 0 <;> simp [hfc, hdc.numRows, FetchCursor.toResult]

theorem FetchCursor.scroll_toResult (hdc : dc.Stores v) (c : FetchCursor σ) (value : Int)
    (mode : String) :
    Prod.map (FetchCursor.toResult v) id (c.scroll dc value mode) =
      (c.toResult v).scroll value mode := by
  have htarget : c.scrollTarget dc value mode = (c.toResult v).scrollTarget value mode := by
    unfold FetchCursor.scrollTarget ResultCursor.scrollTarget
    rw [FetchCursor.rowcount_toResult hdc]
    rfl
  unfold FetchCursor.scroll ResultCursor.scroll
  simp only [FetchCursor.toResult_fieldCount, FetchCursor.toResult_buffered, htarget]
  split_ifs
  all_goals try rfl
  cases (c.toResult v).scrollTarget value mode with
  | error e => rfl
  | ok p =>
    simp only [Prod.map, id]
    simp [FetchCursor.seek, ResultCursor.seek, FetchCursor.toResult, hdc.seek]

theorem FetchCursor.fetchmany_toResult (hdc : dc.Stores v) (c : FetchCursor σ) (size : Int) :
    Prod.map (FetchCursor.toResult v) id (c.fetchmany dc size) =
      (c.toResult v).fetchmany size :=
  FetchCursor.mrdbCursorFetchrows_toResult hdc c _

theorem FetchCursor.fetchall_toResult (hdc : dc.Stores v) (c : FetchCursor σ) :
    Prod.map (FetchCursor.toResult v) id (c.fetchall dc) = (c.toResult v).fetchall :=
  FetchCursor.mrdbCursorFetchrows_toResult hdc c _

/-- **One call on a stored result is the call of `Fetch`.** -/
theorem FetchCursor.call_toResult (hdc : dc.Stores v) (c : FetchCursor σ) (k : FetchCall) :
    Prod.map (FetchCursor.toResult v) id (c.call dc k) = (c.toResult v).call k := by
  cases k with
  | fetchone =>
    have h := FetchCursor.fetchone_toResult hdc c
    simp only [FetchCursor.call, ResultCursor.call, ← h]
    rfl
  | fetchmany size =>
    have h := FetchCursor.fetchmany_toResult hdc c size
    simp only [FetchCursor.call, ResultCursor.call, ← h]
    rfl
  | fetchall =>
    have h := FetchCursor.fetchall_toResult hdc c
    simp only [FetchCursor.call, ResultCursor.call, ← h]
    rfl
  | scroll value mode =>
    have h := FetchCursor.scroll_toResult hdc c value mode
    simp only [FetchCursor.call, ResultCursor.call, ← h]
    rfl

/-- **A run on a stored result is the run of `Fetch`.** -/
theorem FetchCursor.run_toResult (hdc : dc.Stores v) :
    ∀ (ks : List FetchCall) (c : FetchCursor σ),
      Prod.map (FetchCursor.toResult v) id (FetchCursor.run dc ks c) = (c.toResult v).run ks
  | [], _ => rfl
  | k :: ks, c => by
    have h := FetchCursor.call_toResult hdc c k
    have ih := FetchCursor.run_toResult hdc ks (c.call dc k).1
    simp only [FetchCursor.run, ResultCursor.run]
    rw [← h]
    simp only [Prod.map_fst, Prod.map_snd, id] at ih ⊢
    rw [← ih]
    rfl

/-- From what `execute` leaves on rows stored on the client, a run is the run of `Fetch` from
what its `execute` leaves. -/
theorem FetchCursor.run_executed_toResult (hdc : dc.Stores v) (fieldCount : Nat) {s : σ}
    {rows : List α} (hs : v s = .start rows) (isText : Bool) (arraysize : Int64)
    (affectedRows : Int) (ks : List FetchCall) :
    Prod.map (FetchCursor.toResult v) id
        (FetchCursor.run dc ks (.executed fieldCount s isText arraysize affectedRows)) =
      (ResultCursor.executed fieldCount rows true arraysize affectedRows).run ks := by
  rw [FetchCursor.run_toResult hdc, FetchCursor.toResult_executed fieldCount hs]

end Simulation

/-- Three rows stored on a buffered cursor, as `execute` leaves them. -/
def threeRowsStored : FetchCursor (ListCursor Nat) := .executed 1 (.start [10, 20, 30]) false 1 0

/-! ### The loop of `fetchrows` -/

section Loop

variable {dc : DataCursor σ α}

theorem FetchCursor.fetchrowsLoop_of_none {c : FetchCursor σ} (h : c.fetchinternal dc = none) :
    ∀ n, FetchCursor.fetchrowsLoop dc n c = ([], c)
  | 0 => rfl
  | _ + 1 => by rw [FetchCursor.fetchrowsLoop, h]

/-- A row comes from a fetch that returned one, or from an error return on the binary protocol;
either way only the data cursor moves. -/
theorem FetchCursor.fetchinternal_eq_some {c c' : FetchCursor σ} {a : α}
    (h : c.fetchinternal dc = some (a, c')) :
    ∃ s, (dc.fetch c.result = .row a s ∨ (c.isText = false ∧ dc.fetch c.result = .error a s)) ∧
      c' = { c with result := s } := by
  unfold FetchCursor.fetchinternal at h
  cases hf : dc.fetch c.result with
  | row b s =>
    rw [hf] at h
    cases h
    exact ⟨s, .inl rfl, rfl⟩
  | noData =>
    rw [hf] at h
    cases h
  | error b s =>
    rw [hf] at h
    dsimp only at h
    by_cases ht : c.isText
    · rw [if_pos ht] at h
      cases h
    · rw [if_neg ht] at h
      cases h
      exact ⟨s, .inr ⟨by simpa using ht, rfl⟩, rfl⟩

theorem FetchCursor.fetchinternal_fieldCount {c c' : FetchCursor σ} {a : α}
    (h : c.fetchinternal dc = some (a, c')) : c'.fieldCount = c.fieldCount := by
  obtain ⟨s, -, rfl⟩ := FetchCursor.fetchinternal_eq_some h
  rfl

theorem FetchCursor.fetchrowsLoop_fieldCount :
    ∀ (n : Nat) (c : FetchCursor σ),
      (FetchCursor.fetchrowsLoop dc n c).2.fieldCount = c.fieldCount
  | 0, _ => rfl
  | n + 1, c => by
    unfold FetchCursor.fetchrowsLoop
    cases hf : c.fetchinternal dc with
    | none => rfl
    | some r =>
      obtain ⟨a, c'⟩ := r
      dsimp only
      rw [FetchCursor.fetchrowsLoop_fieldCount n]
      have h := FetchCursor.fetchinternal_fieldCount hf
      exact h

theorem FetchCursor.fetchrowsLoop_add :
    ∀ (m n : Nat) (c : FetchCursor σ),
      FetchCursor.fetchrowsLoop dc (m + n) c =
        ((FetchCursor.fetchrowsLoop dc m c).1 ++
            (FetchCursor.fetchrowsLoop dc n (FetchCursor.fetchrowsLoop dc m c).2).1,
          (FetchCursor.fetchrowsLoop dc n (FetchCursor.fetchrowsLoop dc m c).2).2)
  | 0, n, c => by simp [FetchCursor.fetchrowsLoop]
  | m + 1, n, c => by
    rw [Nat.add_right_comm]
    cases hf : c.fetchinternal dc with
    | none => simp [FetchCursor.fetchrowsLoop_of_none hf]
    | some r =>
      obtain ⟨a, c'⟩ := r
      simp only [FetchCursor.fetchrowsLoop, hf]
      rw [FetchCursor.fetchrowsLoop_add m n]
      rfl

theorem FetchCursor.fetchmany_of_pos {c : FetchCursor σ} (hfc : c.fieldCount ≠ 0) {size : Int}
    (h0 : 0 < size) (h : size < 2 ^ 63) :
    c.fetchmany dc size =
      ((FetchCursor.fetchrowsLoop dc size.toNat c).2,
        .ok (FetchCursor.fetchrowsLoop dc size.toNat c).1) := by
  unfold FetchCursor.fetchmany FetchCursor.mrdbCursorFetchrows
  rw [if_neg (show ¬size = 0 by omega), if_neg hfc]
  dsimp only
  rw [if_pos ⟨by omega, h⟩, rowCountOf_of_nonneg (by omega) h]

/-- **`fetchmany` sizes add up.** On a cursor with a result set, `fetchmany(a)` followed by
`fetchmany(b)`, for positive sizes whose sum is a `long long`, returns together the rows of one
`fetchmany(a + b)`, in the same order, and leaves the cursor in the same state: whatever
Connector/C's fetch returns, buffered or not, errors included. -/
theorem fetchmany_sizes_compose {c : FetchCursor σ} (hfc : c.fieldCount ≠ 0) {a b : Int}
    (ha : 0 < a) (hb : 0 < b) (hab : a + b < 2 ^ 63) :
    c.fetchmany dc (a + b) =
      (((c.fetchmany dc a).1.fetchmany dc b).1,
        .ok (handedOut (c.fetchmany dc a).2 ++
          handedOut ((c.fetchmany dc a).1.fetchmany dc b).2)) := by
  have hfc' : (FetchCursor.fetchrowsLoop dc a.toNat c).2.fieldCount ≠ 0 := by
    rw [FetchCursor.fetchrowsLoop_fieldCount]
    exact hfc
  rw [FetchCursor.fetchmany_of_pos hfc ha (by omega),
    FetchCursor.fetchmany_of_pos hfc' hb (by omega),
    FetchCursor.fetchmany_of_pos hfc (by omega) hab, handedOut_ok, handedOut_ok,
    show (a + b).toNat = a.toNat + b.toNat by omega, FetchCursor.fetchrowsLoop_add]

/-- `fetchmany(1)` and `fetchmany(2)` on three stored rows. -/
theorem fetchmany_one_then_two_stored :
    threeRowsStored.fieldCount ≠ 0 ∧ (0 : Int) < 1 ∧ (0 : Int) < 2 ∧ (1 : Int) + 2 < 2 ^ 63 ∧
      threeRowsStored.fetchmany listDataCursor (1 + 2) =
        (((threeRowsStored.fetchmany listDataCursor 1).1.fetchmany listDataCursor 2).1,
          .ok (handedOut (threeRowsStored.fetchmany listDataCursor 1).2 ++
            handedOut ((threeRowsStored.fetchmany listDataCursor 1).1.fetchmany
              listDataCursor 2).2)) :=
  ⟨by decide, by decide, by decide, by decide,
    fetchmany_sizes_compose (by decide) (by decide) (by decide) (by decide)⟩

variable {v : σ → ListCursor α}

theorem FetchCursor.fetchinternal_of_remaining_nil (hdc : dc.Stores v) {c : FetchCursor σ}
    (h : (v c.result).remaining = []) : c.fetchinternal dc = none := by
  unfold FetchCursor.fetchinternal
  cases hf : dc.fetch c.result with
  | row a s =>
    have hn := hdc.row _ _ _ hf
    rw [ListCursor.next_of_remaining_eq_nil h] at hn
    cases hn
  | noData => rfl
  | error a s => exact absurd hf (hdc.no_error _ _ _)

theorem FetchCursor.remaining_of_fetchinternal (hdc : dc.Stores v) {c c' : FetchCursor σ} {a : α}
    (h : c.fetchinternal dc = some (a, c')) :
    (v c.result).remaining = a :: (v c'.result).remaining := by
  obtain ⟨s, hf | ⟨-, hf⟩, rfl⟩ := FetchCursor.fetchinternal_eq_some h
  · exact ListCursor.remaining_of_next (hdc.row _ _ _ hf)
  · exact absurd hf (hdc.no_error _ _ _)

theorem FetchCursor.fetchrowsLoop_eq_of_le (hdc : dc.Stores v) :
    ∀ (m n : Nat) (c : FetchCursor σ), (v c.result).remaining.length ≤ m →
      (v c.result).remaining.length ≤ n →
        FetchCursor.fetchrowsLoop dc m c = FetchCursor.fetchrowsLoop dc n c := by
  intro m
  induction m with
  | zero =>
    intro n c hm _
    have hnil := FetchCursor.fetchinternal_of_remaining_nil hdc
      (List.length_eq_zero_iff.mp (Nat.le_zero.mp hm))
    rw [FetchCursor.fetchrowsLoop_of_none hnil, FetchCursor.fetchrowsLoop_of_none hnil]
  | succ m ih =>
    intro n c hm hn
    cases hf : c.fetchinternal dc with
    | none => rw [FetchCursor.fetchrowsLoop_of_none hf, FetchCursor.fetchrowsLoop_of_none hf]
    | some r =>
      obtain ⟨a, c'⟩ := r
      -- one row fewer is left after it, for both loops
      have hrem := FetchCursor.remaining_of_fetchinternal hdc hf
      rw [hrem, List.length_cons] at hm hn
      obtain ⟨n, rfl⟩ : ∃ k, n = k + 1 := ⟨n - 1, by omega⟩
      simp only [FetchCursor.fetchrowsLoop, hf]
      rw [ih n { c' with rowNumber := c'.rowNumber + 1 } (by simpa using hm) (by simpa using hn)]

/-- **A negative size fetches everything left.** On a buffered cursor, `fetchmany(size)` with
`size` a negative `long long` returns what `fetchall()` returns and leaves the cursor where it
leaves it, on any result of at most `2 ^ 63` rows: the size is cast to `uint64_t`. -/
theorem fetchmany_negative_eq_fetchall_stored {c : FetchCursor σ}
    (hdc : c.buffered = true → dc.Stores v) (hbuf : c.buffered = true)
    (hrows : (v c.result).items.length ≤ 2 ^ 63) {size : Int} (hlo : -2 ^ 63 ≤ size)
    (hneg : size < 0) : c.fetchmany dc size = c.fetchall dc := by
  unfold FetchCursor.fetchmany FetchCursor.fetchall FetchCursor.mrdbCursorFetchrows
  rw [if_neg (show ¬size = 0 by omega)]
  by_cases hfc : c.fieldCount = 0
  · rw [if_pos hfc, if_pos hfc]
  · have hrem : (v c.result).remaining.length ≤ 2 ^ 63 := by
      simp only [ListCursor.remaining, List.length_drop]
      omega
    rw [if_neg hfc, if_neg hfc]
    dsimp only
    rw [if_pos ⟨hlo, by omega⟩, if_pos (by decide), rowCountOf_of_neg hlo hneg,
      rowCountOf_of_neg (by decide) (by decide),
      FetchCursor.fetchrowsLoop_eq_of_le (hdc hbuf) _ (2 ^ 64 + rowsEof).toNat c (by omega)
        (by simp only [rowsEof]; omega)]

/-- `fetchmany(-5)` on three stored rows. -/
theorem fetchmany_minus_five_eq_fetchall_stored :
    (threeRowsStored.buffered = true →
      (listDataCursor : DataCursor (ListCursor Nat) Nat).Stores id) ∧
      threeRowsStored.buffered = true ∧ (id threeRowsStored.result).items.length ≤ 2 ^ 63 ∧
      -2 ^ 63 ≤ (-5 : Int) ∧ (-5 : Int) < 0 ∧
      threeRowsStored.fetchmany listDataCursor (-5) = threeRowsStored.fetchall listDataCursor :=
  ⟨fun _ => listDataCursor_stores, rfl, by decide, by decide, by decide,
    fetchmany_negative_eq_fetchall_stored (fun _ => listDataCursor_stores) rfl (by decide)
      (by decide) (by decide)⟩

end Loop

/-! ### The cursor's methods on a buffered cursor -/

section Buffered

variable {dc : DataCursor σ α} {v : σ → ListCursor α}

/-- **After any run, `fetchone` returns the row `rownumber` names.** On a buffered cursor whose
data cursor is at row `row_number`, after any run of `fetchone`, `fetchmany`, `fetchall` and
`scroll` calls, raising or not, `rownumber` is `row_number` and the next `fetchone` returns the
stored row of that number, or `None` past the last. -/
theorem fetchone_after_stored_run_returns_rownumber_row {c : FetchCursor σ}
    (hdc : c.buffered = true → dc.Stores v) (hbuf : c.buffered = true)
    (h : (c.toResult v).AtRowNumber) (hfc : c.fieldCount ≠ 0) (ks : List FetchCall) :
    (FetchCursor.run dc ks c).1.rownumber = some (FetchCursor.run dc ks c).1.rowNumber ∧
      ((FetchCursor.run dc ks c).1.fetchone dc).2 =
        .ok (v c.result).items[(FetchCursor.run dc ks c).1.rowNumber]? := by
  have hstore := hdc hbuf
  have hrun := FetchCursor.run_toResult hstore ks c
  have hone := congrArg Prod.snd
    (FetchCursor.fetchone_toResult hstore (FetchCursor.run dc ks c).1)
  obtain ⟨h1, h2⟩ := fetchone_after_run_returns_rownumber_row h hfc ks
  rw [← hrun] at h1 h2
  simp only [Prod.map_fst, Prod.map_snd, id, FetchCursor.toResult_rowNumber,
    FetchCursor.toResult_result] at h1 h2 hone
  exact ⟨h1, hone.trans h2⟩

/-- Three rows: after `fetchmany(2)` and `scroll(-1)`, the next row is the second. -/
theorem fetchone_after_stored_fetchmany_scroll_back :
    (threeRowsStored.buffered = true →
      (listDataCursor : DataCursor (ListCursor Nat) Nat).Stores id) ∧
      threeRowsStored.buffered = true ∧ (threeRowsStored.toResult id).AtRowNumber ∧
      threeRowsStored.fieldCount ≠ 0 ∧
      (FetchCursor.run listDataCursor [.fetchmany 2, .scroll (-1) "relative"]
          threeRowsStored).1.rownumber =
        some (FetchCursor.run listDataCursor [.fetchmany 2, .scroll (-1) "relative"]
          threeRowsStored).1.rowNumber ∧
      ((FetchCursor.run listDataCursor [.fetchmany 2, .scroll (-1) "relative"]
          threeRowsStored).1.fetchone listDataCursor).2 =
        .ok [10, 20, 30][(FetchCursor.run listDataCursor [.fetchmany 2, .scroll (-1) "relative"]
          threeRowsStored).1.rowNumber]? := by
  have hat : (threeRowsStored.toResult id).AtRowNumber := by
    simp [threeRowsStored, FetchCursor.executed, FetchCursor.toResult, ResultCursor.AtRowNumber]
  exact ⟨fun _ => listDataCursor_stores, rfl, hat, by decide,
    fetchone_after_stored_run_returns_rownumber_row (fun _ => listDataCursor_stores) rfl hat
      (by decide) _⟩

/-- **`rownumber` never passes the rows stored.** From what `execute` leaves on a buffered
cursor, after any run of `fetchone`, `fetchmany`, `fetchall` and `scroll` calls, the data cursor
is at row `rownumber` and `rownumber` is at most the number of rows stored. -/
theorem stored_run_rownumber_within_rows (hdc : dc.Stores v) (fieldCount : Nat) {s : σ}
    {rows : List α} (hs : v s = .start rows) (isText : Bool) (arraysize : Int64) (affected : Int)
    (ks : List FetchCall) :
    (v (FetchCursor.run dc ks (.executed fieldCount s isText arraysize affected)).1.result).pos =
        (FetchCursor.run dc ks (.executed fieldCount s isText arraysize affected)).1.rowNumber ∧
      (FetchCursor.run dc ks (.executed fieldCount s isText arraysize affected)).1.rowNumber ≤
        rows.length := by
  have hrun := FetchCursor.run_executed_toResult hdc fieldCount hs isText arraysize affected ks
  have h := run_rownumber_within_rows fieldCount rows true arraysize affected ks
  rw [← hrun] at h
  simpa only [Prod.map_fst, FetchCursor.toResult_result, FetchCursor.toResult_rowNumber] using h

/-- Three rows, after `fetchall` and a relative `scroll` back by two. -/
theorem stored_run_fetchall_scroll_within_rows :
    (listDataCursor : DataCursor (ListCursor Nat) Nat).Stores id ∧
      id (ListCursor.start [10, 20, 30]) = ListCursor.start [10, 20, 30] ∧
      (id (FetchCursor.run listDataCursor [.fetchall, .scroll (-2) "relative"]
          (.executed 1 (ListCursor.start [10, 20, 30]) false 1 0)).1.result).pos =
        (FetchCursor.run listDataCursor [.fetchall, .scroll (-2) "relative"]
          (.executed 1 (ListCursor.start [10, 20, 30]) false 1 0)).1.rowNumber ∧
      (FetchCursor.run listDataCursor [.fetchall, .scroll (-2) "relative"]
          (.executed 1 (ListCursor.start [10, 20, 30]) false 1 0)).1.rowNumber ≤
        [10, 20, 30].length :=
  ⟨listDataCursor_stores, rfl,
    stored_run_rownumber_within_rows listDataCursor_stores 1 rfl false 1 0 _⟩

/-- **Fetches hand out every row once, in order.** From what `execute` leaves on a buffered
cursor, over any run of `fetchone`, `fetchmany` and `fetchall` calls whose sizes are `long long`
values, the rows handed out are the first `rownumber` rows of the result in order, and followed
by the rows still to fetch they are the whole result. -/
theorem stored_fetch_run_hands_out_rows_in_order (hdc : dc.Stores v) (fieldCount : Nat) {s : σ}
    {rows : List α} (hs : v s = .start rows) (isText : Bool) (arraysize : Int64)
    (affectedRows : Int) (ks : List FetchCall) (hks : ∀ k ∈ ks, k.LongLongFetch) :
    (FetchCursor.run dc ks (.executed fieldCount s isText arraysize affectedRows)).2 =
        rows.take (FetchCursor.run dc ks
          (.executed fieldCount s isText arraysize affectedRows)).1.rowNumber ∧
      (FetchCursor.run dc ks (.executed fieldCount s isText arraysize affectedRows)).2 ++
          (v (FetchCursor.run dc ks
            (.executed fieldCount s isText arraysize affectedRows)).1.result).remaining = rows := by
  have hrun := FetchCursor.run_executed_toResult hdc fieldCount hs isText arraysize affectedRows ks
  have h := fetch_run_hands_out_rows_in_order fieldCount rows true arraysize affectedRows ks hks
  rw [← hrun] at h
  simpa only [Prod.map_fst, Prod.map_snd, id, FetchCursor.toResult_result,
    FetchCursor.toResult_rowNumber] using h

/-- Three rows, fetched by `fetchone`, `fetchmany(0)` (one row, `arraysize`) and `fetchall`. -/
theorem stored_fetch_three_rows_in_order :
    (listDataCursor : DataCursor (ListCursor Nat) Nat).Stores id ∧
      id (ListCursor.start [10, 20, 30]) = ListCursor.start [10, 20, 30] ∧
      (∀ k ∈ [FetchCall.fetchone, .fetchmany 0, .fetchall], k.LongLongFetch) ∧
      (FetchCursor.run listDataCursor [.fetchone, .fetchmany 0, .fetchall] threeRowsStored).2 =
        [10, 20, 30].take (FetchCursor.run listDataCursor [.fetchone, .fetchmany 0, .fetchall]
          threeRowsStored).1.rowNumber ∧
      (FetchCursor.run listDataCursor [.fetchone, .fetchmany 0, .fetchall] threeRowsStored).2 ++
          (id (FetchCursor.run listDataCursor [.fetchone, .fetchmany 0, .fetchall]
            threeRowsStored).1.result).remaining = [10, 20, 30] :=
  ⟨listDataCursor_stores, rfl, by decide,
    stored_fetch_run_hands_out_rows_in_order listDataCursor_stores 1 rfl false 1 0 _ (by decide)⟩

/-- **A size outside `long long` loses the rows it reads.** On a buffered cursor with a result
set, `fetchmany(size)` with `size` outside `long long` raises `SystemError`, yet it has moved the
data cursor to the end and counted every remaining row in `rownumber`. -/
theorem stored_fetchmany_overflow_loses_rows {c : FetchCursor σ}
    (hdc : c.buffered = true → dc.Stores v) (hbuf : c.buffered = true) (hfc : c.fieldCount ≠ 0)
    (hrows : (v c.result).items.length < 2 ^ 64) {size : Int}
    (hsize : size < -2 ^ 63 ∨ 2 ^ 63 ≤ size) :
    (c.fetchmany dc size).2 = .error ⟨.builtinError, "SystemError"⟩ ∧
      (v (c.fetchmany dc size).1.result).remaining = [] ∧
      (c.fetchmany dc size).1.rowNumber = c.rowNumber + (v c.result).remaining.length := by
  have hmany := FetchCursor.fetchmany_toResult (hdc hbuf) c size
  have h := fetchmany_overflow_loses_rows (c := c.toResult v) hfc hrows hsize
  rw [← hmany] at h
  simpa only [Prod.map_fst, Prod.map_snd, id, FetchCursor.toResult_result,
    FetchCursor.toResult_rowNumber] using h

/-- `fetchmany(2 ** 63)` on three rows. -/
theorem stored_fetchmany_two_pow_63_loses_rows :
    (threeRowsStored.buffered = true →
      (listDataCursor : DataCursor (ListCursor Nat) Nat).Stores id) ∧
      threeRowsStored.buffered = true ∧ threeRowsStored.fieldCount ≠ 0 ∧
      (id threeRowsStored.result).items.length < 2 ^ 64 ∧
      ((2 : Int) ^ 63 < -2 ^ 63 ∨ 2 ^ 63 ≤ (2 : Int) ^ 63) ∧
      (threeRowsStored.fetchmany listDataCursor (2 ^ 63)).2 =
        .error ⟨.builtinError, "SystemError"⟩ ∧
      (id (threeRowsStored.fetchmany listDataCursor (2 ^ 63)).1.result).remaining = [] ∧
      (threeRowsStored.fetchmany listDataCursor (2 ^ 63)).1.rowNumber =
        threeRowsStored.rowNumber + (id threeRowsStored.result).remaining.length :=
  ⟨fun _ => listDataCursor_stores, rfl, by decide, by decide, by decide,
    stored_fetchmany_overflow_loses_rows (fun _ => listDataCursor_stores) rfl (by decide)
      (by decide) (by decide)⟩

end Buffered

end MariadbConnector
