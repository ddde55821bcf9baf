import MariadbConnector.Lib.Utf8
import MariadbConnector.Parser.Rewrite
import MariadbConnector.Codecs.Bulk

/-! Client-side substitution for the text protocol: `MrdbCursor_parse`, the `statement` member and
`Cursor._substitute_parameters`. Python strings are their UTF-8 bytes. -/
namespace MariadbConnector

open Splice Utf8

/-- `PyUnicode_FromString` on a key: its bytes up to the first NUL, decoded. The bytes lie
between ASCII delimiters of a UTF-8 statement, so they decode. -/
def keyText (k : List UInt8) : String :=
  (String.fromUTF8? ⟨(k.takeWhile (· ≠ 0)).toArray⟩).getD ""

/-- `MrdbParseInfo`, as `MrdbCursor_parse` fills it and `MrdbCursor_clearparseinfo` zeroes it:
the `statement_len` bytes of the rewritten statement, or `NULL`. A `NULL` `paramlist` or `keys`
is the empty list. -/
structure MrdbParseInfo where
  statement : Option (List UInt8)
  paramcount : Nat
  paramstyle : Paramstyle
  paramlist : List Nat
  keys : List String
  isText : Bool
  command : BinaryCommand
  deriving DecidableEq, Repr

/-- `MrdbCursor_clearparseinfo`: the record zeroed. -/
def MrdbParseInfo.cleared : MrdbParseInfo := ⟨none, 0, .none, [], [], false, .sqlNone⟩

/-- The fields `MrdbCursor_parse` takes from a finished parser. -/
def MrdbParseInfo.ofParser (q : MrdbParser) : MrdbParseInfo where
  statement := some (q.statement.take q.length)
  paramcount := q.paramCount
  paramstyle := q.paramstyle
  paramlist := q.paramList
  keys := if q.paramstyle = .pyformat then q.keys.map keyText else []
  isText := q.command == .sqlNone || q.command == .sqlOther
  command := q.command

@[simp] theorem MrdbParseInfo.ofParser_statement (q : MrdbParser) :
    (MrdbParseInfo.ofParser q).statement = some (q.statement.take q.length) := rfl

@[simp] theorem MrdbParseInfo.ofParser_paramlist (q : MrdbParser) :
    (MrdbParseInfo.ofParser q).paramlist = q.paramList := rfl

/-- `MrdbCursor_parse`. The parser always finishes (`parse_ne_none`). -/
def mrdbCursorParse (sv : Nat) (stmt : List UInt8) : Except PyError MrdbParseInfo :=
  match hp : MrdbParser.init sv stmt with
  | none => .error ⟨.programmingError, "Can't initialize parser."⟩
  | some p =>
    match hq : p.parse false with
    | some (.ok q) => .ok (.ofParser q)
    | some (.error msg) => .error ⟨.programmingError, msg⟩
    | none => absurd hq (parse_ne_none false hp)

/-- The `statement` member (`T_STRING`): the rewritten statement up to its first NUL byte. -/
def MrdbParseInfo.statementText (pi : MrdbParseInfo) : Option (List UInt8) :=
  pi.statement.map (·.takeWhile (· ≠ 0))

theorem mrdbCursorParse_ok {sv : Nat} {stmt : List UInt8} {pi : MrdbParseInfo}
    (h : mrdbCursorParse sv stmt = .ok pi) :
    ∃ p q, MrdbParser.init sv stmt = some p ∧ p.parse false = some (.ok q) ∧
      pi = .ofParser q := by
  unfold mrdbCursorParse at h
  split at h
  · cases h
  · rename_i p hp
    split at h
    · rename_i q hq
      cases h
      exact ⟨p, q, hp, hq, rfl⟩
    · cases h
    · rename_i hq
      exact absurd hq (parse_ne_none false hp)

theorem mrdbCursorParse_statement {sv : Nat} {stmt : List UInt8} {pi : MrdbParseInfo}
    (h : mrdbCursorParse sv stmt = .ok pi) (h37 : 37 ∉ stmt) : pi.statement = some stmt := by
  obtain ⟨p, q, hp, hq, rfl⟩ := mrdbCursorParse_ok h
  obtain ⟨ps, hps⟩ := rewritten_of_parse false hp hq
  rw [MrdbParseInfo.ofParser_statement, hps.output_eq_input h37]

theorem statementText_ofParser {sv : Nat} {stmt : List UInt8} {p q : MrdbParser}
    (hp : MrdbParser.init sv stmt = some p) (hq : p.parse false = some (.ok q))
    (hnul : 0 ∉ stmt) :
    (MrdbParseInfo.ofParser q).statementText = some (q.statement.take q.length) := by
  obtain ⟨ps, hps⟩ := rewritten_of_parse false hp hq
  simp only [MrdbParseInfo.statementText, MrdbParseInfo.ofParser, Option.map_some,
    Option.some.injEq]
  refine List.takeWhile_eq_self_iff.mpr fun c hc => ?_
  rcases hps.mem_output hc with hc | rfl
  · exact decide_eq_true (fun h0 => hnul (h0 ▸ hc))
  · decide

/-! ### The rendering of a bound value -/

/-- `isinstance(val, Number)`: `int`, its subclass `bool`, `float` and `Decimal`. -/
def PyValue.isNumber : PyValue → Bool
  | .int _ | .bool _ | .float _ | .decimal _ => true
  | .other _ number => number.isSome
  | _ => false

/-- `val.__str__()`; `other` gives it for the objects whose text the model does not carry. -/
def PyValue.toStr (other : PyValue → String) : PyValue → String
  | .int v => toString v
  | .bool b => if b then "True" else "False"
  | .float r | .decimal r => r
  | .str s => s
  | .other _ (some s) => s
  | v => other v

/-- The `str()` of a number is ASCII, as Python prints a `float`, a `Decimal`, a `Fraction` or a
`complex`. -/
def PyValue.NumberText : PyValue → Prop
  | .float r | .decimal r | .other _ (some r) => Ascii r
  | _ => True

/-- `"'%s'" % s`. -/
def quoted (s : String) : String :=
  String.singleton (Char.ofNat 39) ++ s ++ String.singleton (Char.ofNat 39)

theorem ascii_toStr {other : PyValue → String} {v : PyValue} (hn : v.isNumber = true)
    (hv : v.NumberText) : Ascii (v.toStr other) := by
  cases v with
  | int i => exact ascii_toString_int i
  | bool b => cases b <;> simp [PyValue.toStr, Ascii, Char.utf8Size_eq_one_iff]
  | float r => exact hv
  | decimal r => exact hv
  | other t n =>
    cases n with
    | none => simp [PyValue.isNumber] at hn
    | some s => exact hv
  | _ => simp [PyValue.isNumber] at hn

section Substitute

-- `self.connection.escape_string`, and `__str__` of the objects the model does not carry
variable (escape : String → String) (other : PyValue → String)

/-- The loop body of `_substitute_parameters` up to the splice: `replace` and `extra_bytes`.
`prev` is `replace` from the pass before, which an indicator other than `NULL` or `DEFAULT`
leaves as it is; `none` is the name not yet bound (`UnboundLocalError`). -/
def replacement (prev : Option String) : PyValue → Option (String × Int)
  | .none => some ("NULL", 0)
  | .indicator i =>
    if i = .null then some ("NULL", 0)
    else if i = .default then some ("DEFAULT", 0)
    else prev.map fun r => (r, 0)
  | v =>
    if v.isNumber then some (v.toStr other, 0)
    else
      match v with
      | .bytes b | .bytearray b => some (quoted (escape (latin1 b)), 0)
      | _ =>
        -- only this branch counts the bytes a character takes beyond one
        let r := quoted (escape (v.toStr other))
        some (r, ((encode r).length : Int) - r.length)

/-- `self._data[self._keys[i]]` for `pyformat`, else `self._data[i]`; `none` where the lookup
raises. -/
def boundValue (pi : MrdbParseInfo) (data : Row) (i : Nat) : Option PyValue :=
  if pi.paramstyle = .pyformat then
    match data, pi.keys[i]? with
    | .dict es, some k => es.lookup k
    | _, _ => none
  else
    match data with
    | .seq vs => vs[i]?
    | _ => none

/-- The loop of `_substitute_parameters` from placeholder `i` on, over the offsets left, with
`new_stmt`, `replace_diff` and the last `replace`; `none` where it raises. The slices are
Python's. -/
def substituteLoop (pi : MrdbParseInfo) (data : Row) :
    Nat → List Nat → List UInt8 → Int → Option String → Option (List UInt8)
  | _, [], newStmt, _, _ => some newStmt
  | i, o :: os, newStmt, diff, prev => do
    let val ← boundValue pi data i
    let (r, extra) ← replacement escape other prev val
    let ofs : Int := o + diff
    substituteLoop pi data (i + 1) os
      (newStmt.take (sliceIndex newStmt.length ofs) ++ encode r ++
        newStmt.drop (sliceIndex newStmt.length (ofs + 1)))
      (diff + r.length - 1 + extra) (some r)

/-- `Cursor._substitute_parameters`: the loop over `self._paramlist`, started on
`self.statement.encode("utf8")`. -/
def substituteParameters (pi : MrdbParseInfo) (data : Row) : Option (List UInt8) := do
  let newStmt ← pi.statementText
  substituteLoop escape other pi data 0 pi.paramlist newStmt 0 none

/-- What a bound value is to be replaced by: `NULL`, `DEFAULT`, `str()` of a number, or a string
escaped and quoted; `none` for the values this does not cover. -/
def render : PyValue → Option String
  | .none | .indicator .null => some "NULL"
  | .indicator .default => some "DEFAULT"
  | .str s => some (quoted (escape s))
  | v => if v.isNumber then some (v.toStr other) else none

/-- For a value `render` covers, the loop writes its rendering and shifts the later offsets by
its length in bytes, less the one byte of the `?`. -/
theorem replacement_of_render (prev : Option String) {v : PyValue} {r : String}
    (hr : render escape other v = some r) (hv : v.NumberText) :
    ∃ extra, replacement escape other prev v = some (r, extra) ∧
      (r.length : Int) + extra = (encode r).length := by
  have hnull : Ascii "NULL" := by simp [Ascii, Char.utf8Size_eq_one_iff]
  have hdefault : Ascii "DEFAULT" := by simp [Ascii, Char.utf8Size_eq_one_iff]
  cases v with
  | none =>
    cases hr
    exact ⟨0, rfl, by rw [length_encode_of_ascii hnull]; omega⟩
  | indicator i =>
    cases i <;> cases hr
    · exact ⟨0, rfl, by rw [length_encode_of_ascii hnull]; omega⟩
    · exact ⟨0, rfl, by rw [length_encode_of_ascii hdefault]; omega⟩
  | str s =>
    cases hr
    refine ⟨_, rfl, ?_⟩
    simp only [PyValue.toStr]
    omega
  | int _ | bool _ | float _ | decimal _ =>
    simp only [render, PyValue.isNumber, if_true, Option.some.injEq] at hr
    subst hr
    refine ⟨0, rfl, ?_⟩
    rw [length_encode_of_ascii (ascii_toStr rfl hv)]
    omega
  | other t n =>
    -- a `numbers.Number` of another class is written by its `str()`, unquoted
    cases n with
    | none => simp [render, PyValue.isNumber] at hr
    | some s =>
      simp only [render, PyValue.isNumber, Option.isSome_some, if_true, Option.some.injEq] at hr
      subst hr
      refine ⟨0, rfl, ?_⟩
      rw [length_encode_of_ascii (ascii_toStr rfl hv)]
      omega
  | _ => simp [render, PyValue.isNumber] at hr

theorem substituteLoop_eq_replaceShifted (pi : MrdbParseInfo) (data : Row) :
    ∀ (os : List Nat) (rs : List String) (i : Nat) (stmt : List UInt8) (d : Int)
      (prev : Option String), rs.length = os.length →
      (∀ j < os.length, ∃ v, boundValue pi data (i + j) = some v ∧ v.NumberText ∧
        render escape other v = rs[j]?) →
      substituteLoop escape other pi data i os stmt d prev =
        some (replaceShifted stmt d (os.zip (rs.map encode)))
  | [], _, _, stmt, _, _, _, _ => rfl
  | o :: os, [], _, _, _, _, hlen, _ => by simp at hlen
  | o :: os, r :: rs, i, stmt, d, prev, hlen, hv => by
    obtain ⟨v, hval, hnum, hr⟩ := hv 0 (by simp)
    obtain ⟨extra, hrep, hextra⟩ := replacement_of_render escape other prev hr hnum
    have ih := substituteLoop_eq_replaceShifted pi data os rs (i + 1)
      (stmt.take (sliceIndex stmt.length (o + d)) ++ encode r ++
        stmt.drop (sliceIndex stmt.length (o + d + 1)))
      (d + r.length - 1 + extra) (some r) (by simpa using hlen) fun j hj => by
        obtain ⟨w, hw, hwn, hwr⟩ := hv (j + 1) (by simp only [List.length_cons]; omega)
        exact ⟨w, by rw [← hw]; congr 1; omega, hwn, hwr⟩
    -- the loop's shift is the rendering's length in bytes less one
    have hshift : d + r.length - 1 + extra = d + ((encode r).length : Int) - 1 := by omega
    simp only [substituteLoop, Nat.add_zero] at hval ⊢
    rw [hval]
    simp only [Option.bind_eq_bind, Option.bind_some, hrep]
    rw [ih, hshift]
    rfl

/-- For a statement with no NUL byte and values `render` covers, the substitution writes over
the byte at each offset of `_paramlist`, a `?`, the UTF-8 rendering of its value, and keeps
every other byte. -/
theorem substituteParameters_eq_replaceAt {sv : Nat} {stmt : List UInt8} {pi : MrdbParseInfo}
    {data : Row} {rs : List String} (hpi : mrdbCursorParse sv stmt = .ok pi) (hnul : 0 ∉ stmt)
    (hlen : rs.length = pi.paramlist.length)
    (hv : ∀ j < pi.paramlist.length, ∃ v, boundValue pi data j = some v ∧ v.NumberText ∧
      render escape other v = rs[j]?) :
    ∃ out, pi.statement = some out ∧ (∀ i ∈ pi.paramlist, out[i]? = some 63) ∧
      substituteParameters escape other pi data =
        some (replaceAt out 0 (pi.paramlist.zip (rs.map encode))) := by
  obtain ⟨p, q, hp, hq, rfl⟩ := mrdbCursorParse_ok hpi
  obtain ⟨ps, hps⟩ := rewritten_of_parse false hp hq
  refine ⟨q.statement.take q.length, rfl, hps.at_qmark, ?_⟩
  -- the offsets increase and each falls on a byte of the statement
  have hinc : Increasing 0 (q.statement.take q.length).length
      (q.paramList.zip (rs.map encode)) := by
    refine increasing_of_pairwise ?_ fun op hop => ⟨Nat.zero_le _, ?_⟩
    · rw [List.map_fst_zip (by simp [hlen, MrdbParseInfo.ofParser])]
      exact hps.increasing
    · obtain ⟨hlt, -⟩ := List.getElem?_eq_some_iff.mp (hps.at_qmark _ (List.of_mem_zip hop).1)
      omega
  have hloop := substituteLoop_eq_replaceShifted escape other (.ofParser q) data q.paramList rs 0
    (q.statement.take q.length) 0 none hlen (fun j hj => by simpa using hv j hj)
  simp only [substituteParameters, statementText_ofParser hp hq hnul, Option.bind_eq_bind,
    Option.bind_some, MrdbParseInfo.ofParser_paramlist]
  rw [hloop, replaceShifted_eq_replaceAt hinc]

/-- The `statement` member stops at the first NUL byte, so a `?` after a NUL inside a literal
is spliced onto the cut text and the rest of the statement is lost; in place, the `?` alone
would be replaced. -/
theorem substitute_nul_in_literal :
    -- SELECT '\0', ?
    mrdbCursorParse 100000 [83, 69, 76, 69, 67, 84, 32, 39, 0, 39, 44, 32, 63] =
      .ok ⟨some [83, 69, 76, 69, 67, 84, 32, 39, 0, 39, 44, 32, 63], 1, .qmark, [12], [], true,
        .sqlOther⟩ ∧
    substituteParameters escape other
        ⟨some [83, 69, 76, 69, 67, 84, 32, 39, 0, 39, 44, 32, 63], 1, .qmark, [12], [], true,
          .sqlOther⟩ (.seq [.int 1]) = some [83, 69, 76, 69, 67, 84, 32, 39, 49] ∧
    render escape other (.int 1) = some "1" ∧
    replaceAt [83, 69, 76, 69, 67, 84, 32, 39, 0, 39, 44, 32, 63] 0 [(12, encode "1")] =
      [83, 69, 76, 69, 67, 84, 32, 39, 0, 39, 44, 32, 49] := by
  refine ⟨rfl, ?_, rfl, by decide⟩
  simp [substituteParameters, MrdbParseInfo.statementText, substituteLoop, boundValue, replacement,
    PyValue.isNumber, PyValue.toStr]
  decide

end Substitute

end MariadbConnector
