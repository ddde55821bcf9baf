import MariadbConnector.Cursor.Execute

/-! What the text protocol sends: the statement with each `?` replaced by the rendering of its
value. -/

namespace MariadbConnector

open Splice Utf8

section Text

variable {sv : Nat} {opts : CursorOptions} {escape : String → String} {other : PyValue → String}
  {bindParams : MrdbParseInfo → Row → Except PyError Unit}

/-! ### The parse -/

theorem mrdbCursorParse_paramcount {stmt : List UInt8} {pi : MrdbParseInfo}
    (h : mrdbCursorParse sv stmt = .ok pi) : pi.paramcount = pi.paramlist.length := by
  obtain ⟨p, q, hp, hq, rfl⟩ := mrdbCursorParse_ok h
  obtain ⟨ps, hps⟩ := rewritten_of_parse false hp hq
  exact hps.count_eq

theorem mrdbCursorParse_at_qmark {stmt : List UInt8} {pi : MrdbParseInfo}
    (h : mrdbCursorParse sv stmt = .ok pi) (h37 : 37 ∉ stmt) :
    ∀ i ∈ pi.paramlist, stmt[i]? = some 63 := by
  have hstmt := mrdbCursorParse_statement h h37
  obtain ⟨p, q, hp, hq, rfl⟩ := mrdbCursorParse_ok h
  obtain ⟨ps, hps⟩ := rewritten_of_parse false hp hq
  simp only [MrdbParseInfo.ofParser_statement, Option.some.injEq] at hstmt
  rw [← hstmt]
  exact hps.at_qmark

theorem mrdbCursorParse_statementText {stmt : List UInt8} {pi : MrdbParseInfo}
    (h : mrdbCursorParse sv stmt = .ok pi) (hstmt : 37 ∉ stmt ∧ 0 ∉ stmt) :
    pi.statementText = some stmt := by
  simp only [MrdbParseInfo.statementText, mrdbCursorParse_statement h hstmt.1, Option.map_some,
    Option.some.injEq]
  exact List.takeWhile_eq_self_iff.mpr fun c hc => decide_eq_true fun h0 => hstmt.2 (h0 ▸ hc)

/-! ### The checks on a tuple -/

/-- The data check of a tuple passes exactly when the statement does not take a dict and there is
one value per offset, or no offset. -/
theorem checkExecuteParams_seq (pi : MrdbParseInfo) (vs : List PyValue) :
    checkExecuteParams pi (some (.seq vs)) = .ok () ↔
      pi.paramstyle ≠ .pyformat ∧ (pi.paramlist = [] ∨ vs.length = pi.paramlist.length) := by
  unfold checkExecuteParams
  by_cases hpy : pi.paramstyle = .pyformat
  · simp [hpy]
  · dsimp only [dataLen, Option.getD_some]
    rw [if_neg (by simp), if_neg hpy]
    by_cases hbad : pi.paramlist ≠ [] ∧
      (vs.length = 0 ∧ 0 < pi.paramlist.length ∨ vs.length ≠ pi.paramlist.length)
    · rw [if_pos hbad]
      refine iff_of_false (by simp) fun ⟨_, h⟩ => ?_
      obtain ⟨hne, hmis⟩ := hbad
      rcases h with h | h
      · exact hne h
      · omega
    · rw [if_neg hbad]
      refine iff_of_true rfl ⟨hpy, ?_⟩
      by_cases hnil : pi.paramlist = []
      · exact .inl hnil
      · -- with offsets the count must match
        right
        by_contra hne
        exact hbad ⟨hnil, .inr hne⟩

theorem PyValue.isBinaryType_of_render {v : PyValue} {r : String}
    (h : render escape other v = some r) : v.isBinaryType = false := by
  cases v with
  | bytes _ | bytearray _ | date | datetime | dateSubclass _ =>
    simp [render, PyValue.isNumber] at h
  | _ => rfl

/-- Data for which the protocol test keeps the text protocol, and neither the first nor the
second test changes `_text`. -/
theorem Cursor.chooseProtocol_of_text {c : Cursor} {n : Nat} {d : Option Row} (hn : n ≠ 0)
    (hfb : opts.forceBinary = false) (hd : checkTextTypes c.parseinfo d = false) :
    c.chooseProtocol opts n d = c := by
  simp [Cursor.chooseProtocol, hn, hfb, hd]

theorem Cursor.chooseProtocol_zero_of_text {c : Cursor} {d : Option Row}
    (hfb : opts.forceBinary = false) (htext : c.parseinfo.isText = true) :
    c.chooseProtocol opts 0 d = c := by
  obtain ⟨⟨st, pc, ps, pl, ks, t, cmd⟩, rp, bk, hd⟩ := c
  dsimp only at htext
  subst htext
  simp [Cursor.chooseProtocol, hfb]

/-! The substitution does not read `_text`. -/

theorem boundValue_setIsText (pi : MrdbParseInfo) (b : Bool) (data : Row) (i : Nat) :
    boundValue { pi with isText := b } data i = boundValue pi data i := rfl

theorem substituteLoop_setIsText (pi : MrdbParseInfo) (b : Bool) (data : Row) :
    ∀ (i : Nat) (os : List Nat) (s : List UInt8) (d : Int) (prev : Option String),
      substituteLoop escape other { pi with isText := b } data i os s d prev =
        substituteLoop escape other pi data i os s d prev
  | _, [], _, _, _ => rfl
  | i, o :: os, s, d, prev => by
    simp only [substituteLoop, boundValue_setIsText, substituteLoop_setIsText]

@[simp] theorem substituteParameters_setIsText (pi : MrdbParseInfo) (b : Bool) (data : Row) :
    substituteParameters escape other { pi with isText := b } data =
      substituteParameters escape other pi data := by
  simp only [substituteParameters, substituteLoop_setIsText]
  rfl

/-! ### The query -/

theorem Cursor.runText_of_substitute {c : Cursor} {d : Option Row} {q : List UInt8}
    (hpos : 0 < c.parseinfo.paramcount)
    (hs : substituteParameters escape other c.parseinfo (d.getD (.seq [])) = some q) :
    (c.runText escape other d).2 = .ok (.query q) := by
  simp [Cursor.runText, hpos, hs]

theorem Cursor.runText_of_zero {c : Cursor} {d : Option Row} {q : List UInt8}
    (h0 : c.parseinfo.paramcount = 0) (hs : c.parseinfo.statementText = some q) :
    (c.runText escape other d).2 = .ok (.query q) := by
  simp [Cursor.runText, h0, hs]

/-- On the parse of a statement without `%` or NUL, the text protocol sends the statement with
each `?` replaced. -/
theorem Cursor.runText_rendered {c : Cursor} {stmt : List UInt8} (hstmt : 37 ∉ stmt ∧ 0 ∉ stmt)
    {pi : MrdbParseInfo} (hpi : mrdbCursorParse sv stmt = .ok pi)
    (hc : c.parseinfo = { pi with isText := c.parseinfo.isText }) {vs : List PyValue}
    {rs : List String} (hr : vs.map (render escape other) = rs.map some)
    (hnum : ∀ v ∈ vs, v.NumberText) (hcheck : checkExecuteParams pi (some (.seq vs)) = .ok ())
    {d : Option Row} (hd : d.getD (.seq []) = .seq vs) :
    (c.runText escape other d).2 =
      .ok (.query (replaceAt stmt 0 (pi.paramlist.zip (rs.map encode)))) := by
  have hcount := mrdbCursorParse_paramcount hpi
  obtain ⟨hstyle, hlen⟩ := (checkExecuteParams_seq pi vs).mp hcheck
  by_cases h0 : pi.paramlist = []
  · -- no placeholder: the `statement` member, which is the statement
    have hq : replaceAt stmt 0 (pi.paramlist.zip (rs.map encode)) = stmt := by
      rw [h0]
      rfl
    refine Cursor.runText_of_zero (by rw [hc, hcount, h0]; rfl) ?_
    rw [hq, hc]
    show pi.statementText = some stmt
    exact mrdbCursorParse_statementText hpi hstmt
  -- a value for each offset, each rendered
  have hvs : vs.length = pi.paramlist.length := hlen.resolve_left h0
  have hrs : rs.length = pi.paramlist.length := by
    rw [← hvs, ← List.length_map (f := some), ← hr, List.length_map]
  have hv : ∀ j < pi.paramlist.length, ∃ v, boundValue pi (.seq vs) j = some v ∧ v.NumberText ∧
      render escape other v = rs[j]? := by
    intro j hj
    have hjv : j < vs.length := hvs ▸ hj
    refine ⟨vs[j], by simp [boundValue, hstyle], hnum _ (List.getElem_mem _), ?_⟩
    have hget : (vs.map (render escape other))[j]? = (rs.map some)[j]? := by rw [hr]
    rw [List.getElem?_map, List.getElem?_map, List.getElem?_eq_getElem hjv] at hget
    cases hrj : rs[j]? with
    | none => simp [hrj] at hget
    | some r => simpa [hrj] using hget
  obtain ⟨out, hout, -, hsub⟩ := substituteParameters_eq_replaceAt escape other hpi hstmt.2 hrs hv
  rw [mrdbCursorParse_statement hpi hstmt.1, Option.some.injEq] at hout
  subst hout
  refine Cursor.runText_of_substitute ?_ ?_
  · rw [hc, hcount]
    exact List.length_pos_iff.mpr h0
  · rw [hc, hd, substituteParameters_setIsText]
    exact hsub

theorem Cursor.execute_query_runText {c c' : Cursor} {stmt q : List UInt8} {data : Option Row}
    (h : c.execute sv opts escape other bindParams stmt data = (c', .ok (.query q))) :
    ∃ c₁ n, c.parseExecute sv opts stmt data false = (c₁, .ok ()) ∧ dataLen data = some n ∧
      ((c₁.chooseProtocol opts n (if n = 0 then none else data)).runText escape other
        (if n = 0 then none else data)).2 = .ok (.query q) := by
  unfold Cursor.execute at h
  rcases hpe : c.parseExecute sv opts stmt data false with ⟨c₁, _ | ⟨⟩⟩
  · rw [hpe] at h
    cases h
  rw [hpe] at h
  cases hl : dataLen data with
  | none =>
    rw [hl] at h
    cases h
  | some n =>
    rw [hl] at h
    dsimp only at h
    refine ⟨c₁, n, rfl, rfl, ?_⟩
    generalize (if n = 0 then none else data) = d at h ⊢
    split_ifs at h with htext
    · rw [h]
    · -- the binary protocol runs the handle, it sends no query
      exact absurd (congrArg Prod.snd h) (Cursor.runBinary_ne_query _ _ _)

/-- A statement the cursor did not parse last is parsed, and the data checked against that
parse. -/
theorem Cursor.parseExecute_miss {c : Cursor} {stmt : List UInt8} {pi : MrdbParseInfo}
    (hne : stmt ≠ []) (hmiss : c.parseinfo.statementText ≠ some stmt)
    (hpi : mrdbCursorParse sv stmt = .ok pi) (hro : opts.readOnly = false) (data : Option Row)
    (b : Bool) :
    ∃ c₁, c.parseExecute sv opts stmt data b = (c₁, checkExecuteParams pi data) ∧
      c₁.parseinfo = pi := by
  unfold Cursor.parseExecute Cursor.parse
  simp only [hne, if_false, ne_eq, hmiss, not_false_eq_true, true_or, if_true, hpi,
    Cursor.checkParams, hro, Bool.false_eq_true]
  exact ⟨_, rfl, rfl⟩

theorem isBinaryType_of_rendered {vs : List PyValue} {rs : List String}
    (hr : vs.map (render escape other) = rs.map some) : ∀ v ∈ vs, v.isBinaryType = false := by
  intro v hv
  obtain ⟨r, hrv⟩ : ∃ r, render escape other v = some r := by
    have hmem : render escape other v ∈ rs.map some := hr ▸ List.mem_map_of_mem hv
    obtain ⟨r, -, hrv⟩ := List.mem_map.mp hmem
    exact ⟨r, hrv.symm⟩
  exact PyValue.isBinaryType_of_render hrv

/-- On a sound cache, a query `execute` sends for a tuple of rendered numbers is the statement
with each `?` replaced. -/
theorem Cursor.execute_query_rendered {c c' : Cursor}
    (hcached : c.parseinfo.Cached sv (fun s => 37 ∉ s ∧ 0 ∉ s)) {stmt : List UInt8}
    (hstmt : 37 ∉ stmt ∧ 0 ∉ stmt) {pi : MrdbParseInfo} (hpi : mrdbCursorParse sv stmt = .ok pi)
    {vs : List PyValue} {rs : List String} (hr : vs.map (render escape other) = rs.map some)
    (hnum : ∀ v ∈ vs, v.NumberText) {q : List UInt8}
    (h : c.execute sv opts escape other bindParams stmt (some (.seq vs)) = (c', .ok (.query q))) :
    q = replaceAt stmt 0 (pi.paramlist.zip (rs.map encode)) := by
  -- a query comes from the text protocol, on the parse the data was checked against
  obtain ⟨c₁, n, hpe, hn, hq⟩ := Cursor.execute_query_runText h
  simp only [dataLen, Option.some.injEq] at hn
  subst hn
  have hne : stmt ≠ [] := by
    rintro rfl
    simp [Cursor.parseExecute] at hpe
  obtain ⟨hcheck, hpi₁⟩ := @Cursor.parseExecute_of_cached sv opts _ _ _ (fun _ hs => hs)
    hcached hne _ hpi (some (.seq vs)) false
  rw [hpe] at hcheck hpi₁
  dsimp only at hcheck hpi₁
  generalize hd : (if vs.length = 0 then none else some (Row.seq vs)) = d at hq
  have hd' : d.getD (.seq []) = .seq vs := by
    rw [← hd]
    split_ifs with h0
    · rw [List.length_eq_zero_iff.mp h0]
      rfl
    · rfl
  -- `execute` changes only `_text` of that parse
  have hc₂ : (c₁.chooseProtocol opts vs.length d).parseinfo =
      { pi with isText := (c₁.chooseProtocol opts vs.length d).parseinfo.isText } := by
    rw [Cursor.chooseProtocol_eq]
    dsimp only
    rw [hpi₁]
  rw [Cursor.runText_rendered hstmt hpi hc₂ hr hnum hcheck.symm hd'] at hq
  cases hq
  rfl

/-- A statement the cursor did not parse last, whose command leaves `_text` set, goes out over
the text protocol with its placeholders replaced. -/
theorem Cursor.execute_miss_rendered {c : Cursor} {stmt : List UInt8}
    (hstmt : 37 ∉ stmt ∧ 0 ∉ stmt) {pi : MrdbParseInfo} (hpi : mrdbCursorParse sv stmt = .ok pi)
    {vs : List PyValue} {rs : List String} (hr : vs.map (render escape other) = rs.map some)
    (hnum : ∀ v ∈ vs, v.NumberText) (hmiss : c.parseinfo.statementText ≠ some stmt)
    (htext : pi.isText = true) (hro : opts.readOnly = false) (hfb : opts.forceBinary = false)
    (hstyle : pi.paramstyle ≠ .pyformat) (hlen : vs.length = pi.paramlist.length)
    (hne : stmt ≠ []) :
    ∃ c', c.execute sv opts escape other bindParams stmt (some (.seq vs)) =
      (c', .ok (.query (replaceAt stmt 0 (pi.paramlist.zip (rs.map encode))))) := by
  have hcheck : checkExecuteParams pi (some (.seq vs)) = .ok () :=
    (checkExecuteParams_seq pi vs).mpr ⟨hstyle, .inr hlen⟩
  -- on a miss the fresh parse keeps `_text`
  obtain ⟨c₁, hpe, hpi₁⟩ := Cursor.parseExecute_miss hne hmiss hpi hro (some (.seq vs)) false
  by_cases hvs : vs = []
  · -- no values: the statement itself goes out, with nothing to substitute
    subst hvs
    have hnil : pi.paramlist = [] := List.length_eq_zero_iff.mp hlen.symm
    have htext₁ : c₁.parseinfo.isText = true := by
      rw [hpi₁]
      exact htext
    have hq : (c₁.runText escape other none).2 = .ok (.query stmt) :=
      Cursor.runText_of_zero (by rw [hpi₁, mrdbCursorParse_paramcount hpi, hnil]; rfl)
        (by rw [hpi₁]; exact mrdbCursorParse_statementText hpi hstmt)
    refine ⟨(c₁.runText escape other none).1, ?_⟩
    unfold Cursor.execute
    rw [hpe, hcheck]
    simp only [dataLen, List.length_nil, if_true, Cursor.chooseProtocol_zero_of_text hfb htext₁,
      htext₁, hnil, List.zip_nil_left]
    exact Prod.ext rfl hq
  have hn : vs.length ≠ 0 := fun h => hvs (List.length_eq_zero_iff.mp h)
  -- no value asks for the binary protocol
  have htt : checkTextTypes c₁.parseinfo (some (.seq vs)) = false := by
    rw [checkTextTypes_seq, List.any_eq_false]
    intro v hv
    simp [isBinaryType_of_rendered hr v (List.mem_of_mem_take hv)]
  have hsent := Cursor.runText_rendered hstmt hpi (c := c₁) (by rw [hpi₁]) hr hnum hcheck
    (d := some (.seq vs)) rfl
  refine ⟨(c₁.runText escape other (some (.seq vs))).1, ?_⟩
  unfold Cursor.execute
  rw [hpe, hcheck]
  simp only [dataLen, if_neg hn, Cursor.chooseProtocol_of_text hn hfb htt, hpi₁, htext, if_true]
  exact Prod.ext rfl hsent

end Text

/-- **The text protocol sends the rendered statement.** After any run of `execute` and
`executemany` calls on statements without `%` and NUL, take `execute(stmt, values)` for such a
statement that parses, and values `_substitute_parameters` renders (`None`, the `NULL` and
`DEFAULT` indicators, numbers and strings). The offsets of the parse are `?`s of the statement.
Whenever the call sends a query, it is the statement with the `?` at each offset replaced by the
rendering of its value. And when the cursor did not parse the statement last, its command leaves
`_text` set, the cursor neither forces the binary protocol nor is read-only, and there is one
value per placeholder, the call does send that query, the empty tuple included. -/
theorem execute_text_sends_rendered (sv : Nat) (srv : Server) (opts : CursorOptions)
    (escape : String → String) (other : PyValue → String)
    (bindParams : MrdbParseInfo → Row → Except PyError Unit) {calls : List Call}
    (hcalls : ∀ x ∈ calls, 37 ∉ x.statement ∧ 0 ∉ x.statement) {stmt : List UInt8}
    (hstmt : 37 ∉ stmt ∧ 0 ∉ stmt) {pi : MrdbParseInfo} (hpi : mrdbCursorParse sv stmt = .ok pi)
    {vs : List PyValue} {rs : List String} (hr : vs.map (render escape other) = rs.map some)
    (hnum : ∀ v ∈ vs, v.NumberText) :
    (∀ i ∈ pi.paramlist, stmt[i]? = some 63) ∧
      (∀ c' q, (Cursor.fresh.run sv srv opts escape other bindParams calls).execute sv opts escape
          other bindParams stmt (some (.seq vs)) = (c', .ok (.query q)) →
        q = replaceAt stmt 0 (pi.paramlist.zip (rs.map encode))) ∧
      ((Cursor.fresh.run sv srv opts escape other bindParams calls).parseinfo.statementText ≠
          some stmt → pi.isText = true → opts.readOnly = false → opts.forceBinary = false →
        pi.paramstyle ≠ .pyformat → vs.length = pi.paramlist.length → stmt ≠ [] →
        ∃ c', (Cursor.fresh.run sv srv opts escape other bindParams calls).execute sv opts escape
          other bindParams stmt (some (.seq vs)) =
            (c', .ok (.query (replaceAt stmt 0 (pi.paramlist.zip (rs.map encode)))))) := by
  -- the cursor after the run holds the parse of its last statement
  have hcached : (Cursor.fresh.run sv srv opts escape other bindParams calls).parseinfo.Cached sv
      (fun s => 37 ∉ s ∧ 0 ∉ s) :=
    Cursor.run_cached calls hcalls Cursor.fresh MrdbParseInfo.cached_cleared
  refine ⟨mrdbCursorParse_at_qmark hpi hstmt.1, ?_, ?_⟩
  · intro c' q h
    exact Cursor.execute_query_rendered hcached hstmt hpi hr hnum h
  · intro hmiss htext hro hfb hstyle hlen hne
    exact Cursor.execute_miss_rendered hstmt hpi hr hnum hmiss htext hro hfb hstyle hlen hne

/-- On a new cursor, `SELECT ?` with `(1,)` goes out over the text protocol as `SELECT 1`. -/
theorem execute_text_select_one :
    (∀ x ∈ ([] : List Call), 37 ∉ x.statement ∧ 0 ∉ x.statement) ∧
      (37 ∉ ([83, 69, 76, 69, 67, 84, 32, 63] : List UInt8) ∧
        0 ∉ ([83, 69, 76, 69, 67, 84, 32, 63] : List UInt8)) ∧
      mrdbCursorParse 100000 [83, 69, 76, 69, 67, 84, 32, 63] =
        .ok ⟨some [83, 69, 76, 69, 67, 84, 32, 63], 1, .qmark, [7], [], true, .sqlOther⟩ ∧
      [PyValue.int 1].map (render id (fun _ => "")) = ["1"].map some ∧
      (∀ v ∈ [PyValue.int 1], v.NumberText) ∧
      (∀ c' q, (Cursor.fresh.run 100000 ⟨false, ""⟩ ⟨false, false⟩ id (fun _ => "")
          (fun _ _ => .ok ()) []).execute 100000 ⟨false, false⟩ id (fun _ => "")
          (fun _ _ => .ok ()) [83, 69, 76, 69, 67, 84, 32, 63] (some (.seq [.int 1])) =
          (c', .ok (.query q)) →
        q = [83, 69, 76, 69, 67, 84, 32, 49]) ∧
      ∃ c', (Cursor.fresh.run 100000 ⟨false, ""⟩ ⟨false, false⟩ id (fun _ => "")
          (fun _ _ => .ok ()) []).execute 100000 ⟨false, false⟩ id (fun _ => "")
          (fun _ _ => .ok ()) [83, 69, 76, 69, 67, 84, 32, 63] (some (.seq [.int 1])) =
        (c', .ok (.query [83, 69, 76, 69, 67, 84, 32, 49])) := by
  have hcalls : ∀ x ∈ ([] : List Call), 37 ∉ x.statement ∧ 0 ∉ x.statement := by simp
  have hstmt : 37 ∉ ([83, 69, 76, 69, 67, 84, 32, 63] : List UInt8) ∧
      0 ∉ ([83, 69, 76, 69, 67, 84, 32, 63] : List UInt8) := by decide
  have hpi : mrdbCursorParse 100000 [83, 69, 76, 69, 67, 84, 32, 63] =
      .ok ⟨some [83, 69, 76, 69, 67, 84, 32, 63], 1, .qmark, [7], [], true, .sqlOther⟩ := rfl
  have hr : [PyValue.int 1].map (render id (fun _ => "")) = ["1"].map some := rfl
  have hnum : ∀ v ∈ [PyValue.int 1], v.NumberText := by simp [PyValue.NumberText]
  -- the placeholder at offset 7 takes the rendering of the one value
  have hsent : replaceAt ([83, 69, 76, 69, 67, 84, 32, 63] : List UInt8) 0
      ([7].zip (["1"].map encode)) = [83, 69, 76, 69, 67, 84, 32, 49] := rfl
  obtain ⟨-, hsafe, hprog⟩ := @execute_text_sends_rendered 100000 ⟨false, ""⟩ ⟨false, false⟩ id
    (fun _ => "") (fun _ _ => .ok ()) [] hcalls _ hstmt _ hpi [.int 1] ["1"] hr hnum
  refine ⟨hcalls, hstmt, hpi, hr, hnum, fun c' q h => (hsafe c' q h).trans hsent, ?_⟩
  -- a new cursor has parsed nothing, so the statement is parsed afresh
  rw [← hsent]
  exact hprog (by simp [Cursor.run, Cursor.fresh, MrdbParseInfo.cleared,
    MrdbParseInfo.statementText]) rfl rfl rfl (by decide) rfl (by simp)

end MariadbConnector
