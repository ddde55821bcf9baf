import MariadbConnector.Cursor.Substitute

/-! `Cursor.execute` and `Cursor.executemany` (`cursors.py`) over the C cursor
(`mariadb_cursor.c`): the parse cache keyed by the `statement` member, the choice between the
text and the binary protocol, and the server statement handle the binary protocol runs. -/
namespace MariadbConnector

/-- `len(data or ())`: `None` and empty sequences count as `()`; `none` where `len` raises. -/
def dataLen : Option Row → Option Nat
  | none => some 0
  | some (.seq vs) => some vs.length
  | some (.dict es) => some es.length
  | some .other => none

/-- `Cursor._check_execute_params` on `self._data`. -/
def checkExecuteParams (pi : MrdbParseInfo) (data : Option Row) : Except PyError Unit :=
  let isSeq := match data with | some (.seq _) => true | _ => false
  if (pi.paramstyle = .qmark ∨ pi.paramstyle = .format) ∧ !isSeq then
    .error ⟨.programmingError, "Data argument must be Tuple or List"⟩
  else if pi.paramstyle = .pyformat then
    match data with
    | some (.dict es) =>
      match pi.keys.find? (fun k => (es.lookup k).isNone) with
      | some k => .error ⟨.programmingError, s!"Dictionary doesn't contain key '{k}'"⟩
      | none => .ok ()
    | _ => .error ⟨.programmingError, "Data argument must be Dictionary"⟩
  else
    let n := ((dataLen data).getD 0)
    if pi.paramlist ≠ [] ∧ ((n = 0 ∧ 0 < pi.paramlist.length) ∨ n ≠ pi.paramlist.length) then
      .error ⟨.programmingError,
        s!"statement ({pi.paramlist.length}) doesn't match the number of data elements ({n})."⟩
    else .ok ()

/-! ### The protocol test -/

/-- `PyBytes_Check`, `PyByteArray_Check` or `PyDate_Check`; a `datetime` is a `date`. -/
def PyValue.isBinaryType : PyValue → Bool
  | .bytes _ | .bytearray _ | .date | .datetime | .dateSubclass _ => true
  | _ => false

/-- The loop of `MrdbCursor_check_text_types` over a dict's values, `n` passes left:
`PyDict_Next` takes the next value while there is one and leaves `obj` as it was after. -/
def dictNextLoop : Nat → List PyValue → Option PyValue → Bool
  | 0, _, _ => false
  | n + 1, v :: vs, _ => v.isBinaryType || dictNextLoop n vs (some v)
  | n + 1, [], obj => (obj.map PyValue.isBinaryType).getD false || dictNextLoop n [] obj

/-- `MrdbCursor_check_text_types` on `self->data`: the first `paramcount` values of a tuple or
list, or of a dict in its order. -/
def checkTextTypes (pi : MrdbParseInfo) (data : Option Row) : Bool :=
  match data with
  | some (.dict es) => dictNextLoop pi.paramcount (es.map (·.2)) none
  | some (.seq vs) =>
    (List.range pi.paramcount).any fun i => (vs[i]?.map PyValue.isBinaryType).getD false
  | _ => false

theorem checkTextTypes_seq (pi : MrdbParseInfo) (vs : List PyValue) :
    checkTextTypes pi (some (.seq vs)) = (vs.take pi.paramcount).any PyValue.isBinaryType := by
  simp only [checkTextTypes]
  rw [Bool.eq_iff_iff, List.any_eq_true, List.any_eq_true]
  constructor
  · rintro ⟨i, hi, h⟩
    cases hv : vs[i]? with
    | none => simp [hv] at h
    | some v =>
      simp only [hv, Option.map_some, Option.getD_some] at h
      have hi' := List.mem_range.mp hi
      exact ⟨v, List.mem_iff_getElem?.mpr ⟨i, by rw [List.getElem?_take, if_pos hi', hv]⟩, h⟩
  · rintro ⟨v, hv, h⟩
    obtain ⟨i, hi⟩ := List.mem_iff_getElem?.mp hv
    rw [List.getElem?_take] at hi
    split_ifs at hi with hlt
    exact ⟨i, List.mem_range.mpr hlt, by simp [hi, h]⟩

/-! ### The cursor -/

/-- The options of a cursor that `execute` reads: `cursor_type == CURSOR.READ_ONLY` and
`binary`. The cursor is not `prepared`. -/
structure CursorOptions where
  readOnly : Bool
  forceBinary : Bool
  deriving DecidableEq, Repr

/-- The state `execute` and `executemany` read and write: the C cursor's parse information
(whose `is_text` is also the `_text` attribute), `reprepare`, `_bulk`, and the text the server
statement handle was prepared with, `none` for no handle or one never prepared. -/
structure Cursor where
  parseinfo : MrdbParseInfo
  reprepare : Bool
  bulk : Bool
  handle : Option (List UInt8)
  deriving DecidableEq, Repr

/-- A new cursor. -/
def Cursor.fresh : Cursor := ⟨.cleared, false, false, none⟩

/-- What one call has the server run. -/
inductive Dispatch
  /-- `mysql_send_query` with the statement after substitution. -/
  | query (text : List UInt8)
  /-- `mysql_stmt_execute` on the handle, prepared with the given text; on a handle never
  prepared (`none`) Connector/C fails. -/
  | execute (prepared : Option (List UInt8))
  /-- The same for the array execution of `executemany`. -/
  | executeBulk (prepared : Option (List UInt8))
  deriving DecidableEq, Repr

/-- The parse information `mariadb_check_bulk_parameters` reads. -/
def MrdbParseInfo.toParseInfo (pi : MrdbParseInfo) : ParseInfo :=
  ⟨pi.paramstyle, pi.paramcount, pi.keys⟩

/-- `Mrdb_execute_direct`: the handle as it is without `reprepare`; with it, the statement
prepared on the handle (`mysql_stmt_prepare`, or `mariadb_stmt_execute_direct` where the server
has bulk operations) and run. -/
def Cursor.executeDirect (c : Cursor) : Cursor × Option (List UInt8) :=
  if c.reprepare then ({ c with handle := c.parseinfo.statement }, c.parseinfo.statement)
  else (c, c.handle)

section Execute

-- the server's version and capabilities, and the cursor's options
variable (sv : Nat) (srv : Server) (opts : CursorOptions)

/-- `MrdbCursor_parse` on the cursor: the old parse information is cleared, then replaced when
the parser succeeds. -/
def Cursor.parse (c : Cursor) (stmt : List UInt8) : Cursor × Except PyError Unit :=
  let c := if c.parseinfo.statement.isSome then { c with parseinfo := .cleared } else c
  match mrdbCursorParse sv stmt with
  | .error e => (c, .error e)
  | .ok pi => ({ c with parseinfo := pi }, .ok ())

/-- The end of `_parse_execute`: a server side cursor runs binary, then the data is checked. -/
def Cursor.checkParams (c : Cursor) (data : Option Row) : Cursor × Except PyError Unit :=
  let c := if opts.readOnly then { c with parseinfo.isText := false } else c
  (c, checkExecuteParams c.parseinfo data)

/-- `Cursor._parse_execute`. The cache compares the statement with the `statement` member,
the text after the rewrite. -/
def Cursor.parseExecute (c : Cursor) (stmt : List UInt8) (data : Option Row) (isBulk : Bool) :
    Cursor × Except PyError Unit :=
  if stmt = [] then (c, .error ⟨.programmingError, "empty statement"⟩)
  else if c.parseinfo.statementText ≠ some stmt ∨ (isBulk ∧ c.bulk = false) then
    match c.parse sv stmt with
    | (c, .error e) => (c, .error e)
    | (c, .ok ()) => { c with reprepare := true }.checkParams opts data
  else { c with reprepare := false }.checkParams opts data

-- `escape_string` and `__str__` for the substitution, and the conversion of the parameters
-- for the binary protocol (`mariadb_check_execute_parameters`, `mariadb_param_update`)
variable (escape : String → String) (other : PyValue → String)
  (bindParams : MrdbParseInfo → Row → Except PyError Unit)

/-- The protocol `execute` settles on, in `_text`: text without data unless a procedure is
called or a server side cursor is open, binary when forced or when a value is bytes or a date. -/
def Cursor.chooseProtocol (c : Cursor) (n : Nat) (d : Option Row) : Cursor :=
  let c := if n = 0 ∧ c.parseinfo.command ≠ .sqlCall ∧ opts.readOnly = false then
    { c with parseinfo.isText := true } else c
  let c := if opts.forceBinary then { c with parseinfo.isText := false } else c
  if n ≠ 0 ∧ checkTextTypes c.parseinfo d then { c with parseinfo.isText := false } else c

/-- The text protocol: the statement with the values substituted, sent as a query. -/
def Cursor.runText (c : Cursor) (d : Option Row) : Cursor × Except PyError Dispatch :=
  let q := if 0 < c.parseinfo.paramcount then
    substituteParameters escape other c.parseinfo (d.getD (.seq []))
  else c.parseinfo.statementText
  match q with
  | none => (c, .error ⟨.builtinError, "KeyError"⟩)
  | some q => ({ c with bulk := false }, .ok (.query q))

/-- `MrdbCursor_execute_binary`: the values converted, then the handle run. -/
def Cursor.runBinary (c : Cursor) (d : Option Row) : Cursor × Except PyError Dispatch :=
  let bound := match d with
    | some row => if 0 < c.parseinfo.paramcount then bindParams c.parseinfo row else .ok ()
    | none => .ok ()
  match bound with
  | .error e => (c, .error e)
  | .ok () =>
    let r := c.executeDirect
    ({ r.1 with bulk := false }, .ok (.execute r.2))

/-- `Cursor.execute` on a cursor that is not `prepared`: what the server is asked to run.
`self._data` is `None` when there is no data. -/
def Cursor.execute (c : Cursor) (stmt : List UInt8) (data : Option Row) :
    Cursor × Except PyError Dispatch :=
  match c.parseExecute sv opts stmt data false with
  | (c, .error e) => (c, .error e)
  | (c, .ok ()) =>
    match dataLen data with
    | none => (c, .error ⟨.builtinError, "TypeError"⟩)
    | some n =>
      let d := if n = 0 then none else data
      let c := c.chooseProtocol opts n d
      if c.parseinfo.isText then c.runText escape other d else c.runBinary bindParams d

/-- The emulation of `executemany` without bulk operations: `execute` once per row. -/
def Cursor.executeRows (stmt : List UInt8) :
    Cursor → List Row → Cursor × Except PyError (List Dispatch)
  | c, [] => (c, .ok [])
  | c, row :: rows =>
    match c.execute sv opts escape other bindParams stmt (some row) with
    | (c, .error e) => (c, .error e)
    | (c, .ok x) =>
      match c.executeRows stmt rows with
      | (c, .error e) => (c, .error e)
      | (c, .ok xs) => (c, .ok (x :: xs))

/-- `Cursor.executemany`. An error of `mariadb_check_bulk_parameters` clears the parse
information (`MrdbCursor_clear`). -/
def Cursor.executemany (c : Cursor) (stmt : List UInt8) (rows : List Row) :
    Cursor × Except PyError (List Dispatch) :=
  match rows with
  | [] => (c, .error ⟨.programmingError, "No data provided"⟩)
  | row :: _ =>
    if srv.bulkOperations then
      match c.parseExecute sv opts stmt (some row) true with
      | (c, .error e) => (c, .error e)
      | (c, .ok ()) =>
        match checkBulkParameters srv c.parseinfo.toParseInfo (some rows) none with
        | .error e => ({ c with parseinfo := .cleared }, .error e)
        | .ok _ =>
          let r := c.executeDirect
          ({ r.1 with bulk := true }, .ok [.executeBulk r.2])
    else c.executeRows sv opts escape other bindParams stmt rows

/-- A call on the cursor. -/
inductive Call
  | execute (stmt : List UInt8) (data : Option Row)
  | executemany (stmt : List UInt8) (rows : List Row)

def Call.statement : Call → List UInt8
  | .execute stmt _ | .executemany stmt _ => stmt

/-- The cursor after a call, whatever the call returned. -/
def Cursor.call (c : Cursor) : Call → Cursor
  | .execute stmt data => (c.execute sv opts escape other bindParams stmt data).1
  | .executemany stmt rows => (c.executemany sv srv opts escape other bindParams stmt rows).1

/-- The cursor after a run of calls. -/
def Cursor.run (c : Cursor) (calls : List Call) : Cursor :=
  calls.foldl (Cursor.call sv srv opts escape other bindParams) c

/-- The cache key is the rewritten text. After `SELECT %(a)s` the statement `SELECT ?` is taken
as parsed and its tuple is checked against the old `pyformat` style; after a run in the text
protocol the same statement in the binary one runs a handle that was never prepared; and after a
parse whose data check failed, the handle still prepared with the statement before is run. On a
new cursor each last call succeeds on its own statement. -/
theorem execute_stale_cache :
    -- SELECT %(a)s, then SELECT ? with (1,)
    (Cursor.execute 100000 ⟨false, false⟩ id (fun _ => "") (fun _ _ => .ok ())
        (Cursor.fresh.execute 100000 ⟨false, false⟩ id (fun _ => "") (fun _ _ => .ok ())
          [83, 69, 76, 69, 67, 84, 32, 37, 40, 97, 41, 115] (some (.dict [("a", .int 1)]))).1
        [83, 69, 76, 69, 67, 84, 32, 63] (some (.seq [.int 1]))).2 =
      .error ⟨.programmingError, "Data argument must be Dictionary"⟩ ∧
    (Cursor.fresh.execute 100000 ⟨false, false⟩ id (fun _ => "") (fun _ _ => .ok ())
        [83, 69, 76, 69, 67, 84, 32, 63] (some (.seq [.int 1]))).2 =
      .ok (.query [83, 69, 76, 69, 67, 84, 32, 49]) ∧
    -- SELECT ? with (1,), then with (b"x",)
    (Cursor.execute 100000 ⟨false, false⟩ id (fun _ => "") (fun _ _ => .ok ())
        (Cursor.fresh.execute 100000 ⟨false, false⟩ id (fun _ => "") (fun _ _ => .ok ())
          [83, 69, 76, 69, 67, 84, 32, 63] (some (.seq [.int 1]))).1
        [83, 69, 76, 69, 67, 84, 32, 63] (some (.seq [.bytes [120]]))).2 = .ok (.execute none) ∧
    (Cursor.fresh.execute 100000 ⟨false, false⟩ id (fun _ => "") (fun _ _ => .ok ())
        [83, 69, 76, 69, 67, 84, 32, 63] (some (.seq [.bytes [120]]))).2 =
      .ok (.execute (some [83, 69, 76, 69, 67, 84, 32, 63])) ∧
    -- SELECT ? with (b"x",), then SELECT ?, ? with (b"x",), then with (b"x", b"y")
    (Cursor.execute 100000 ⟨false, false⟩ id (fun _ => "") (fun _ _ => .ok ())
        (Cursor.fresh.execute 100000 ⟨false, false⟩ id (fun _ => "") (fun _ _ => .ok ())
          [83, 69, 76, 69, 67, 84, 32, 63] (some (.seq [.bytes [120]]))).1
        [83, 69, 76, 69, 67, 84, 32, 63, 44, 32, 63] (some (.seq [.bytes [120]]))).2 =
      .error ⟨.programmingError, "statement (2) doesn't match the number of data elements (1)."⟩ ∧
    (Cursor.execute 100000 ⟨false, false⟩ id (fun _ => "") (fun _ _ => .ok ())
        (Cursor.execute 100000 ⟨false, false⟩ id (fun _ => "") (fun _ _ => .ok ())
          (Cursor.fresh.execute 100000 ⟨false, false⟩ id (fun _ => "") (fun _ _ => .ok ())
            [83, 69, 76, 69, 67, 84, 32, 63] (some (.seq [.bytes [120]]))).1
          [83, 69, 76, 69, 67, 84, 32, 63, 44, 32, 63] (some (.seq [.bytes [120]]))).1
        [83, 69, 76, 69, 67, 84, 32, 63, 44, 32, 63]
        (some (.seq [.bytes [120], .bytes [121]]))).2 =
      .ok (.execute (some [83, 69, 76, 69, 67, 84, 32, 63])) ∧
    (Cursor.fresh.execute 100000 ⟨false, false⟩ id (fun _ => "") (fun _ _ => .ok ())
        [83, 69, 76, 69, 67, 84, 32, 63, 44, 32, 63]
        (some (.seq [.bytes [120], .bytes [121]]))).2 =
      .ok (.execute (some [83, 69, 76, 69, 67, 84, 32, 63, 44, 32, 63])) := by
  decide

/-- A dict is tested in its own order, not by the statement's keys: with `{"b": 1, "a": b"x"}`
the bytes bound to `%(a)s` go to the text protocol, spliced as a latin-1 string; with the keys
in the statement's order they go to the binary one. -/
theorem execute_dict_bytes_text :
    -- SELECT %(a)s
    boundValue (Cursor.fresh.execute 100000 ⟨false, false⟩ id (fun _ => "") (fun _ _ => .ok ())
        [83, 69, 76, 69, 67, 84, 32, 37, 40, 97, 41, 115]
        (some (.dict [("b", .int 1), ("a", .bytes [120])]))).1.parseinfo
        (.dict [("b", .int 1), ("a", .bytes [120])]) 0 = some (.bytes [120]) ∧
    (Cursor.fresh.execute 100000 ⟨false, false⟩ id (fun _ => "") (fun _ _ => .ok ())
        [83, 69, 76, 69, 67, 84, 32, 37, 40, 97, 41, 115]
        (some (.dict [("b", .int 1), ("a", .bytes [120])]))).2 =
      .ok (.query [83, 69, 76, 69, 67, 84, 32, 39, 120, 39]) ∧
    (Cursor.fresh.execute 100000 ⟨false, false⟩ id (fun _ => "") (fun _ _ => .ok ())
        [83, 69, 76, 69, 67, 84, 32, 37, 40, 97, 41, 115] (some (.dict [("a", .bytes [120])]))).2 =
      .ok (.execute (some [83, 69, 76, 69, 67, 84, 32, 63])) := by
  decide

end Execute

/-! ### What one call does -/

section Lemmas

variable {sv : Nat} {srv : Server} {opts : CursorOptions} {escape : String → String}
  {other : PyValue → String} {bindParams : MrdbParseInfo → Row → Except PyError Unit}

@[simp] theorem Cursor.executeDirect_parseinfo (c : Cursor) :
    c.executeDirect.1.parseinfo = c.parseinfo := by
  unfold Cursor.executeDirect
  split <;> rfl

theorem Cursor.chooseProtocol_eq (c : Cursor) (n : Nat) (d : Option Row) :
    c.chooseProtocol opts n d =
      { c with parseinfo.isText := (c.chooseProtocol opts n d).parseinfo.isText } := by
  unfold Cursor.chooseProtocol
  dsimp only
  split_ifs <;> rfl

@[simp] theorem Cursor.runText_parseinfo (c : Cursor) (d : Option Row) :
    (c.runText escape other d).1.parseinfo = c.parseinfo := by
  unfold Cursor.runText
  dsimp only
  split_ifs <;> split <;> rfl

@[simp] theorem Cursor.runBinary_parseinfo (c : Cursor) (d : Option Row) :
    (c.runBinary bindParams d).1.parseinfo = c.parseinfo := by
  unfold Cursor.runBinary
  dsimp only
  split <;> simp

theorem Cursor.runBinary_ne_query (c : Cursor) (d : Option Row) (q : List UInt8) :
    (c.runBinary bindParams d).2 ≠ .ok (.query q) := by
  unfold Cursor.runBinary
  dsimp only
  split <;> simp

/-- The parse information is cleared, or is the fresh parse of a statement of `S` with `_text`
as the calls left it. -/
def MrdbParseInfo.Cached (sv : Nat) (S : List UInt8 → Prop) (pi : MrdbParseInfo) : Prop :=
  pi.statement = none ∨
    ∃ s, S s ∧ ∃ fresh, mrdbCursorParse sv s = .ok fresh ∧ pi = { fresh with isText := pi.isText }

variable {S : List UInt8 → Prop} {c : Cursor} {stmt : List UInt8}

theorem MrdbParseInfo.cached_cleared : MrdbParseInfo.cleared.Cached sv S := .inl rfl

theorem MrdbParseInfo.Cached.setIsText {pi : MrdbParseInfo} (h : pi.Cached sv S) (b : Bool) :
    ({ pi with isText := b } : MrdbParseInfo).Cached sv S := by
  rcases h with h | ⟨s, hs, fresh, hf, heq⟩
  · exact .inl h
  · exact .inr ⟨s, hs, fresh, hf, by rw [heq]⟩

/-- A property of the parse information that every call keeps: it holds of the cleared record
and of the parse of every statement of `S`, and it survives the writes of `_text` that the calls
make, which store `false`, or `true` for a command other than `SQL_CALL`. -/
structure ParseInfoInvariant (sv : Nat) (S : List UInt8 → Prop) (P : MrdbParseInfo → Prop) :
    Prop where
  cleared : P .cleared
  parsed : ∀ s pi, S s → mrdbCursorParse sv s = .ok pi → P pi
  setIsText : ∀ pi b, P pi → (b = false ∨ pi.command ≠ .sqlCall) → P { pi with isText := b }

/-- `execute` sets `_text` only for a command other than `SQL_CALL`; otherwise it keeps or
clears it. -/
theorem Cursor.chooseProtocol_isText (c : Cursor) (n : Nat) (d : Option Row) :
    (c.chooseProtocol opts n d).parseinfo.isText = c.parseinfo.isText ∨
      (c.chooseProtocol opts n d).parseinfo.isText = false ∨ c.parseinfo.command ≠ .sqlCall := by
  unfold Cursor.chooseProtocol
  dsimp only
  split_ifs <;> simp_all

namespace ParseInfoInvariant

variable {P : MrdbParseInfo → Prop} (hP : ParseInfoInvariant sv S P)
include hP

theorem chooseProtocol (hc : P c.parseinfo) (n : Nat) (d : Option Row) :
    P (c.chooseProtocol opts n d).parseinfo := by
  rcases @Cursor.chooseProtocol_isText opts c n d with h | h | h
  · rw [Cursor.chooseProtocol_eq, h]
    exact hc
  · rw [Cursor.chooseProtocol_eq]
    exact hP.setIsText _ _ hc (.inl h)
  · rw [Cursor.chooseProtocol_eq]
    exact hP.setIsText _ _ hc (.inr h)

theorem checkParams (hc : P c.parseinfo) (data : Option Row) :
    P (c.checkParams opts data).1.parseinfo := by
  unfold Cursor.checkParams
  split_ifs
  · exact hP.setIsText _ false hc (.inl rfl)
  · exact hc

theorem parse (hc : P c.parseinfo) (hs : S stmt) : P (c.parse sv stmt).1.parseinfo := by
  unfold Cursor.parse
  cases hp : mrdbCursorParse sv stmt with
  | error e =>
    split_ifs
    · exact hP.cleared
    · exact hc
  | ok pi => exact hP.parsed stmt pi hs hp

theorem parseExecute (hc : P c.parseinfo) (hs : S stmt) (data : Option Row) (b : Bool) :
    P (c.parseExecute sv opts stmt data b).1.parseinfo := by
  unfold Cursor.parseExecute
  split_ifs
  · exact hc
  · have hp := hP.parse hc hs
    rcases hr : c.parse sv stmt with ⟨c₁, _ | ⟨⟩⟩
    · rw [hr] at hp
      exact hp
    · rw [hr] at hp
      exact hP.checkParams (c := { c₁ with reprepare := true }) hp data
  · exact hP.checkParams (c := { c with reprepare := false }) hc data

theorem execute (hc : P c.parseinfo) (hs : S stmt) (data : Option Row) :
    P (c.execute sv opts escape other bindParams stmt data).1.parseinfo := by
  have h1 : P (c.parseExecute sv opts stmt data false).1.parseinfo :=
    hP.parseExecute hc hs data false
  unfold Cursor.execute
  rcases hpe : c.parseExecute sv opts stmt data false with ⟨c₁, _ | ⟨⟩⟩
  · rw [hpe] at h1
    exact h1
  rw [hpe] at h1
  cases hl : dataLen data with
  | none => exact h1
  | some n =>
    -- neither protocol touches the parse information
    have h2 : P (c₁.chooseProtocol opts n (if n = 0 then none else data)).parseinfo :=
      hP.chooseProtocol h1 n _
    dsimp only
    by_cases htext : (c₁.chooseProtocol opts n (if n = 0 then none else data)).parseinfo.isText
    · rw [if_pos htext, Cursor.runText_parseinfo]
      exact h2
    · rw [if_neg htext, Cursor.runBinary_parseinfo]
      exact h2

theorem executeRows (hs : S stmt) :
    ∀ (c : Cursor) (rows : List Row), P c.parseinfo →
      P (c.executeRows sv opts escape other bindParams stmt rows).1.parseinfo
  | c, [], hc => hc
  | c, row :: rows, hc => by
    have h1 : P (c.execute sv opts escape other bindParams stmt (some row)).1.parseinfo :=
      hP.execute hc hs (some row)
    unfold Cursor.executeRows
    rcases he : c.execute sv opts escape other bindParams stmt (some row) with ⟨c₁, _ | x⟩
    · rw [he] at h1
      exact h1
    rw [he] at h1
    have h2 := executeRows hs c₁ rows h1
    dsimp only
    rcases hr : c₁.executeRows sv opts escape other bindParams stmt rows with ⟨c₂, _ | xs⟩ <;>
      rw [hr] at h2 <;> exact h2

theorem executemany (hc : P c.parseinfo) (hs : S stmt) (rows : List Row) :
    P (c.executemany sv srv opts escape other bindParams stmt rows).1.parseinfo := by
  unfold Cursor.executemany
  rcases rows with _ | ⟨row, rest⟩
  · exact hc
  dsimp only
  split_ifs
  · have h1 : P (c.parseExecute sv opts stmt (some row) true).1.parseinfo :=
      hP.parseExecute hc hs (some row) true
    rcases hpe : c.parseExecute sv opts stmt (some row) true with ⟨c₁, _ | ⟨⟩⟩
    · rw [hpe] at h1
      exact h1
    rw [hpe] at h1
    dsimp only
    split
    · exact hP.cleared
    · rw [Cursor.executeDirect_parseinfo]
      exact h1
  · exact hP.executeRows hs c (row :: rest) hc

theorem run (calls : List Call) (hcalls : ∀ x ∈ calls, S x.statement) :
    ∀ c : Cursor, P c.parseinfo → P (c.run sv srv opts escape other bindParams calls).parseinfo := by
  induction calls with
  | nil => exact fun c hc => hc
  | cons x calls ih =>
    intro c hc
    have hx := hcalls x List.mem_cons_self
    have hstep : P (c.call sv srv opts escape other bindParams x).parseinfo := by
      cases x with
      | execute stmt data => exact hP.execute hc hx data
      | executemany stmt rows => exact hP.executemany hc hx rows
    exact ih (fun y hy => hcalls y (List.mem_cons_of_mem _ hy)) _ hstep

end ParseInfoInvariant

theorem MrdbParseInfo.cached_invariant : ParseInfoInvariant sv S (MrdbParseInfo.Cached sv S) where
  cleared := MrdbParseInfo.cached_cleared
  parsed s pi hs hp := .inr ⟨s, hs, pi, hp, rfl⟩
  setIsText _ b h _ := h.setIsText b

/-- Every run whose statements are in `S` keeps the cache to fresh parses of statements of
`S`. -/
theorem Cursor.run_cached (calls : List Call) (hcalls : ∀ x ∈ calls, S x.statement) :
    ∀ c : Cursor, c.parseinfo.Cached sv S →
      (c.run sv srv opts escape other bindParams calls).parseinfo.Cached sv S :=
  MrdbParseInfo.cached_invariant.run calls hcalls

/-- On a cache of statements without `%` and NUL, a record that reads back as `stmt` is the
parse of `stmt`. -/
theorem MrdbParseInfo.Cached.of_statementText (hS : ∀ s, S s → 37 ∉ s ∧ 0 ∉ s)
    {pi : MrdbParseInfo} (hc : pi.Cached sv S) (h : pi.statementText = some stmt) :
    ∃ fresh, mrdbCursorParse sv stmt = .ok fresh ∧ pi = { fresh with isText := pi.isText } := by
  rcases hc with hnone | ⟨s, hs, fresh, hf, heq⟩
  · simp [MrdbParseInfo.statementText, hnone] at h
  obtain ⟨h37, hnul⟩ := hS s hs
  have hst : fresh.statement = some s := mrdbCursorParse_statement hf h37
  have hread : pi.statementText = some s := by
    rw [heq]
    simp only [MrdbParseInfo.statementText, hst, Option.map_some, Option.some.injEq]
    exact List.takeWhile_eq_self_iff.mpr fun x hx => decide_eq_true (fun h0 => hnul (h0 ▸ hx))
  obtain rfl : s = stmt := Option.some.inj (hread.symm.trans h)
  exact ⟨fresh, hf, heq⟩

theorem Cursor.parseExecute_fresh (hS : ∀ s, S s → 37 ∉ s ∧ 0 ∉ s)
    (hc : c.parseinfo.Cached sv S) {data : Option Row} {b : Bool} {c₁ : Cursor}
    (h : c.parseExecute sv opts stmt data b = (c₁, .ok ())) :
    ∃ fresh, mrdbCursorParse sv stmt = .ok fresh ∧
      c₁.parseinfo = { fresh with isText := c₁.parseinfo.isText } := by
  -- the end of `_parse_execute` writes `_text` only
  have hcheck : ∀ c₀ : Cursor, (c₀.checkParams opts data).1 = c₁ →
      c₁.parseinfo = { c₀.parseinfo with isText := c₁.parseinfo.isText } := by
    intro c₀ hc₀
    subst hc₀
    unfold Cursor.checkParams
    split_ifs <;> rfl
  unfold Cursor.parseExecute at h
  split_ifs at h with h0 hmiss
  · cases h
  · -- a miss: the fresh parse of `stmt`
    unfold Cursor.parse at h
    cases hp : mrdbCursorParse sv stmt with
    | error e =>
      rw [hp] at h
      cases h
    | ok pi =>
      rw [hp] at h
      exact ⟨pi, rfl, hcheck _ (congrArg Prod.fst h)⟩
  · -- a hit: the cached statement reads back as `stmt`, so it is `stmt`
    simp only [not_or, not_and, not_not] at hmiss
    have hpi := hcheck _ (congrArg Prod.fst h)
    obtain ⟨fresh, hf, heq⟩ := hc.of_statementText hS hmiss.1
    refine ⟨fresh, hf, ?_⟩
    rw [hpi, heq]

/-- On a sound cache, `_parse_execute` of a statement that parses checks the data against that
parse, on a hit as on a miss. -/
theorem Cursor.parseExecute_of_cached (hS : ∀ s, S s → 37 ∉ s ∧ 0 ∉ s)
    (hc : c.parseinfo.Cached sv S) (hne : stmt ≠ []) {pi : MrdbParseInfo}
    (hp : mrdbCursorParse sv stmt = .ok pi) (data : Option Row) (b : Bool) :
    (c.parseExecute sv opts stmt data b).2 = checkExecuteParams pi data ∧
      (c.parseExecute sv opts stmt data b).1.parseinfo =
        { pi with isText := (c.parseExecute sv opts stmt data b).1.parseinfo.isText } := by
  -- the data check does not read `_text`, which is all it writes
  have hcheck : ∀ c₀ : Cursor, c₀.parseinfo = { pi with isText := c₀.parseinfo.isText } →
      (c₀.checkParams opts data).2 = checkExecuteParams pi data ∧
        (c₀.checkParams opts data).1.parseinfo =
          { pi with isText := (c₀.checkParams opts data).1.parseinfo.isText } := by
    intro c₀ h₀
    unfold Cursor.checkParams
    dsimp only
    split_ifs <;> rw [h₀] <;> exact ⟨rfl, rfl⟩
  unfold Cursor.parseExecute
  split_ifs with h0 hmiss
  · exact absurd h0 hne
  · -- a miss: the fresh parse of `stmt`
    simp only [Cursor.parse, hp]
    exact hcheck _ rfl
  · -- a hit: the cached record is the parse of `stmt`
    simp only [not_or, not_and, not_not] at hmiss
    obtain ⟨fresh, hf, heq⟩ := hc.of_statementText hS hmiss.1
    obtain rfl : fresh = pi := Except.ok.inj (hf.symm.trans hp)
    exact hcheck { c with reprepare := false } heq

/-- On a cursor whose statements hold no `%`, so that each is its own rewrite, and no NUL byte,
the parse cache is sound: after any run, a call works from the fresh parse of its own
statement. -/
theorem Cursor.run_parseExecute_fresh (hS : ∀ s, S s → 37 ∉ s ∧ 0 ∉ s) {calls : List Call}
    (hcalls : ∀ x ∈ calls, S x.statement) {data : Option Row} {b : Bool} {c₁ : Cursor}
    (h : (Cursor.fresh.run sv srv opts escape other bindParams calls).parseExecute sv opts stmt
      data b = (c₁, .ok ())) :
    ∃ fresh, mrdbCursorParse sv stmt = .ok fresh ∧
      c₁.parseinfo = { fresh with isText := c₁.parseinfo.isText } :=
  Cursor.parseExecute_fresh hS
    (Cursor.run_cached calls hcalls _ MrdbParseInfo.cached_cleared) h

/-- `SELECT 1` run on a new cursor and then executed again: the second call hits the cache, and
the parse it keeps is that of `SELECT 1`. -/
theorem select_one_twice_parsed :
    (∀ s, s = ([83, 69, 76, 69, 67, 84, 32, 49] : List UInt8) → 37 ∉ s ∧ 0 ∉ s) ∧
      (∀ x ∈ [Call.execute [83, 69, 76, 69, 67, 84, 32, 49] none],
        x.statement = [83, 69, 76, 69, 67, 84, 32, 49]) ∧
      ∃ c₁, (Cursor.fresh.run 100000 ⟨false, ""⟩ ⟨false, false⟩ id (fun _ => "")
          (fun _ _ => .ok ()) [.execute [83, 69, 76, 69, 67, 84, 32, 49] none]).parseExecute
          100000 ⟨false, false⟩ [83, 69, 76, 69, 67, 84, 32, 49] none false = (c₁, .ok ()) ∧
        ∃ fresh, mrdbCursorParse 100000 [83, 69, 76, 69, 67, 84, 32, 49] = .ok fresh ∧
          c₁.parseinfo = { fresh with isText := c₁.parseinfo.isText } := by
  have hS : ∀ s, s = ([83, 69, 76, 69, 67, 84, 32, 49] : List UInt8) → 37 ∉ s ∧ 0 ∉ s := by
    rintro s rfl
    decide
  have hcalls : ∀ x ∈ [Call.execute [83, 69, 76, 69, 67, 84, 32, 49] none],
      x.statement = [83, 69, 76, 69, 67, 84, 32, 49] := by
    simp [Call.statement]
  have hpe : (Cursor.fresh.run 100000 ⟨false, ""⟩ ⟨false, false⟩ id (fun _ => "")
      (fun _ _ => .ok ()) [.execute [83, 69, 76, 69, 67, 84, 32, 49] none]).parseExecute
      100000 ⟨false, false⟩ [83, 69, 76, 69, 67, 84, 32, 49] none false =
      (((Cursor.fresh.run 100000 ⟨false, ""⟩ ⟨false, false⟩ id (fun _ => "")
        (fun _ _ => .ok ()) [.execute [83, 69, 76, 69, 67, 84, 32, 49] none]).parseExecute
        100000 ⟨false, false⟩ [83, 69, 76, 69, 67, 84, 32, 49] none false).1, .ok ()) :=
    Prod.ext rfl (by decide)
  exact ⟨hS, hcalls, _, hpe, Cursor.run_parseExecute_fresh hS hcalls hpe⟩

end Lemmas

end MariadbConnector
