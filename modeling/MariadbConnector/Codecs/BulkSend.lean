import MariadbConnector.Codecs.Param
import MariadbConnector.Lib.Fallible

/-! The bulk send of `executemany`: `mariadb_check_bulk_parameters` fixes one bind per column,
then Connector/C calls `mariadb_param_update` on each row. For tuples, a send the check has
passed never fails. -/

namespace MariadbConnector

/-- The body of the loop of `mariadb_param_update(self, bind, row_nr)` for column `col`: the value
fetched from row `rowNr`, then written into the column's bind. -/
def paramUpdateColumn (srv : Server) (pi : ParseInfo) (rowNr : Nat) (row : Row)
    (x : BindInfo × Nat) : Except PyError (Sent × BindInfo) :=
  match getParameter srv pi rowNr x.2 row with
  | .error e => .error e
  | .ok pv =>
    match paramToBind x.1 pv with
    | some r => .ok r
    | none => .error ⟨.builtinError, "SystemError"⟩

/-- `mariadb_param_update(self, bind, row_nr)`: each column of row `rowNr` in turn; the value sent
and the bind as the callback leaves it. -/
def paramUpdateRow (srv : Server) (pi : ParseInfo) (rowNr : Nat) (row : Row)
    (binds : List BindInfo) : Except PyError (List (Sent × BindInfo)) :=
  binds.zipIdx.mapM (paramUpdateColumn srv pi rowNr row)

/-- What the model assumes of Connector/C's bulk request under `STMT_ATTR_CB_PARAM`: it calls
`mariadb_param_update` on each row in turn, numbered on from `rowNr`, with the binds the previous
call left, and gives up at the first row the callback fails on; what each row sends. -/
structure CallsPerRow (srv : Server) (pi : ParseInfo)
    (send : Nat → List Row → List BindInfo → Except PyError (List (List Sent))) : Prop where
  nil : ∀ rowNr binds, send rowNr [] binds = .ok []
  cons : ∀ rowNr row rows binds, send rowNr (row :: rows) binds =
    match paramUpdateRow srv pi rowNr row binds with
    | .error e => .error e
    | .ok r =>
      match send (rowNr + 1) rows (r.map Prod.snd) with
      | .error e => .error e
      | .ok sent => .ok (r.map Prod.fst :: sent)

/-- A loop over the rows that meets `CallsPerRow`. -/
def sendRows (srv : Server) (pi : ParseInfo) :
    Nat → List Row → List BindInfo → Except PyError (List (List Sent))
  | _, [], _ => .ok []
  | rowNr, row :: rows, binds =>
    match paramUpdateRow srv pi rowNr row binds with
    | .error e => .error e
    | .ok r =>
      match sendRows srv pi (rowNr + 1) rows (r.map Prod.snd) with
      | .error e => .error e
      | .ok sent => .ok (r.map Prod.fst :: sent)

theorem sendRows_callsPerRow (srv : Server) (pi : ParseInfo) :
    CallsPerRow srv pi (sendRows srv pi) :=
  ⟨fun _ _ => rfl, fun _ _ _ _ => rfl⟩

/-- `MrdbCursor_execute_bulk` up to the request: the checks, then Connector/C's `send` of the
rows; the binds the checks leave in `self->params`, and what each row sends. -/
def executeBulk (srv : Server) (pi : ParseInfo)
    (send : Nat → List Row → List BindInfo → Except PyError (List (List Sent)))
    (data : Option (List Row)) (prepared : Option (List BindInfo)) :
    Except PyError (List BindInfo × List (List Sent)) :=
  match checkBulkParameters srv pi data prepared with
  | .error e => .error e
  | .ok binds =>
    match send 0 (data.getD []) binds with
    | .error e => .error e
    | .ok sent => .ok (binds, sent)

/-! ### Bind types -/

/-- The bind types `mariadb_param_to_bind` has a branch for. -/
def FieldType.HasBind (t : FieldType) : Prop :=
  t ∈ [.tiny, .short, .long, .longlong, .double, .longBlob, .date, .time, .datetime, .newdecimal,
    .varString, .null]

instance (t : FieldType) : Decidable t.HasBind := inferInstanceAs (Decidable (t ∈ _))

/-- One bind for each placeholder, each of a type `mariadb_param_to_bind` has a branch for. -/
structure BindsFit (pi : ParseInfo) (binds : List BindInfo) : Prop where
  length : binds.length = pi.paramcount
  hasBind : ∀ b ∈ binds, b.bufferType.HasBind

theorem paramToBind_isSome {b : BindInfo} (hb : b.bufferType.HasBind) (pv : ParamValue) :
    (paramToBind b pv).isSome := by
  obtain ⟨t, u⟩ := b
  obtain ⟨v, i⟩ := pv
  by_cases hi : 0 < i
  · simp [paramToBind, hi]
  cases v with
  | none => simp [paramToBind, hi]
  | some v =>
    simp only [FieldType.HasBind, List.mem_cons, List.not_mem_nil, or_false] at hb
    rcases hb with rfl | rfl | rfl | rfl | rfl | rfl | rfl | rfl | rfl | rfl | rfl | rfl <;>
      simp [paramToBind, hi]

theorem paramToBind_bufferType {b : BindInfo} {pv : ParamValue} {r : Sent × BindInfo}
    (h : paramToBind b pv = some r) : r.2.bufferType = b.bufferType ∨ r.2.bufferType = .null := by
  unfold paramToBind at h
  split_ifs at h
  · cases h
    exact .inl rfl
  split at h
  · cases h
    exact .inr rfl
  · split at h <;> first | cases h; exact .inl rfl | cases h

theorem FieldType.HasBind.of_paramToBind {b : BindInfo} {pv : ParamValue} {r : Sent × BindInfo}
    (hb : b.bufferType.HasBind) (h : paramToBind b pv = some r) : r.2.bufferType.HasBind := by
  rcases paramToBind_bufferType h with heq | heq <;> rw [heq]
  · exact hb
  · decide

theorem getColumnInfo_hasBind {v : Option PyValue} {pinfo : ParamInfo}
    (h : getColumnInfo v = some pinfo) : pinfo.type.HasBind := by
  cases v with
  | none =>
    cases h
    decide
  | some v =>
    cases v <;> simp [getColumnInfo, PyValue.asPyLong] at h <;> subst h <;> simp [FieldType.HasBind]

theorem narrowType_hasBind (bits : Nat) (u : Bool) : (narrowType bits u).HasBind := by
  unfold narrowType
  split_ifs <;> decide

theorem getParameter_indicator {srv : Server} {pi : ParseInfo} {rowNr col : Nat} {row : Row}
    {pv : ParamValue} (h : getParameter srv pi rowNr col row = .ok pv) {v : PyValue}
    (hv : pv.value = some v) : pv.indicator = 0 := by
  unfold getParameter at h
  dsimp only at h
  split at h
  · cases h
  · split_ifs at h
    cases h
    cases hv
  · cases h
    cases hv
  · cases h
    rfl

/-! ### The check's loop over a column -/

section Check

variable {srv : Server} {pi : ParseInfo} {col : Nat}

/-- The type a column's loop starts from: one with a branch, or `0`, `MYSQL_TYPE_DECIMAL`, of a
zeroed bind, which the first row replaces. -/
def FieldType.Start (t : FieldType) : Prop := t.HasBind ∨ t = .decimal

theorem infoStep_hasBind {rowNr : Nat} {row : Row} {st : ColumnState}
    {r : ColumnState ⊕ ColumnState} (hst : st.bufferType.Start)
    (h : infoStep srv pi col rowNr row st = .ok r) : (r.elim id id).bufferType.HasBind := by
  unfold infoStep at h
  split at h
  · cases h
  next pv hpv =>
  split at h
  · -- no type for the value: `mariadb_get_column_info` fails only on a value pointer
    next hinfo =>
    have hval : ∃ v, pv.value = some v := by
      cases hv : pv.value with
      | none => rw [hv] at hinfo; cases hinfo
      | some v => exact ⟨v, rfl⟩
    obtain ⟨v, hv⟩ := hval
    rw [if_pos (getParameter_indicator hpv hv)] at h
    cases h
  next pinfo hinfo =>
  have hpinfo := getColumnInfo_hasBind hinfo
  -- the sign and width updates leave the type as it was
  generalize hst' : (if pinfo.type = .longlong then _ else st) = st' at h
  have hbt : st'.bufferType = st.bufferType := by
    rw [← hst']
    split_ifs <;> rfl
  dsimp only at h
  -- a NULL or zeroed type takes the row's; a mismatch breaks, promotes or fails; else it stays
  split_ifs at h with hnull hmis hbreak hdec
  · cases h
    exact hpinfo
  · cases h
    simpa [hbt] using hst.resolve_right (fun hd => hnull (.inl (hbt ▸ hd)))
  · cases h
    exact (by decide : FieldType.newdecimal.HasBind)
  · cases h
    simpa [hbt] using hst.resolve_right (fun hd => hnull (.inl (hbt ▸ hd)))

theorem infoLoop_hasBind :
    ∀ (rowNr : Nat) (rows : List Row) (st st' : ColumnState),
      st.bufferType.HasBind ∨ (st.bufferType = .decimal ∧ rows ≠ []) →
      infoLoop srv pi col rowNr rows st = .ok st' → st'.bufferType.HasBind
  | _, [], st, st', hst, h => by
    cases h
    exact hst.resolve_right fun h => h.2 rfl
  | rowNr, row :: rows, st, st', hst, h => by
    have hstart : st.bufferType.Start := hst.imp_right And.left
    unfold infoLoop at h
    split at h
    · cases h
    · next st₁ hstep =>
      cases h
      exact infoStep_hasBind hstart hstep
    · next st₁ hstep =>
      exact infoLoop_hasBind (rowNr + 1) rows st₁ st' (.inl (infoStep_hasBind hstart hstep)) h

theorem getParameterInfo_hasBind {rows : List Row} {bind b : BindInfo}
    (hb : bind.bufferType.HasBind ∨ (bind.bufferType = .decimal ∧ rows ≠ []))
    (h : getParameterInfo srv pi rows col bind = .ok b) : b.bufferType.HasBind := by
  unfold getParameterInfo at h
  split at h
  · cases h
  next st hloop =>
  cases h
  split_ifs
  · exact narrowType_hasBind _ _
  · exact infoLoop_hasBind 0 rows _ st hb hloop

theorem columnInfos_hasBind {rows : List Row} :
    ∀ (col : Nat) (binds bs : List BindInfo),
      (∀ b ∈ binds, b.bufferType.HasBind ∨ (b.bufferType = .decimal ∧ rows ≠ [])) →
      columnInfos srv pi rows col binds = .ok bs →
      bs.length = binds.length ∧ ∀ b ∈ bs, b.bufferType.HasBind
  | _, [], bs, _, h => by
    cases h
    simp
  | col, bind :: binds, bs, hbinds, h => by
    rw [List.forall_mem_cons] at hbinds
    unfold columnInfos at h
    split at h
    · cases h
    next b hb =>
    split at h
    · cases h
    next bs' hbs =>
    cases h
    obtain ⟨hlen, hall⟩ := columnInfos_hasBind (col + 1) binds bs' hbinds.2 hbs
    exact ⟨by simp [hlen], List.forall_mem_cons.mpr ⟨getParameterInfo_hasBind hbinds.1 hb, hall⟩⟩

/-- Rows that pass the row checks of a statement without pyformat keys are tuples of one value per
placeholder. -/
theorem checkRows_seq (hstyle : pi.paramstyle ≠ .pyformat) :
    ∀ (n : Nat) (rows : List Row), checkRows pi n rows = .ok () →
      ∀ row ∈ rows, ∃ vs, row = .seq vs ∧ vs.length = pi.paramcount
  | _, [], _ => by simp
  | n, row :: rows, h => by
    unfold checkRows at h
    dsimp only at h
    split_ifs at h with hseq hdict hcount
    rw [List.forall_mem_cons]
    refine ⟨?_, checkRows_seq hstyle (n + 1) rows h⟩
    cases row with
    | seq vs =>
      refine ⟨vs, rfl, ?_⟩
      simp only [Row.size, not_or, not_and, not_not] at hcount
      exact (hcount.2 hstyle).symm
    | dict es => simp [hstyle] at hseq
    | other => simp [hstyle] at hseq

/-- The binds the check leaves fit the statement, from a new cursor's zeroed binds or from binds
that fit. -/
theorem checkBulkParameters_fit {data : Option (List Row)} {prepared : Option (List BindInfo)}
    (hprep : ∀ bs, prepared = some bs → BindsFit pi bs) {binds : List BindInfo}
    (h : checkBulkParameters srv pi data prepared = .ok binds) : BindsFit pi binds := by
  unfold checkBulkParameters at h
  split at h
  · cases h
  · cases h
  next rows hne =>
  split at h
  · cases h
  -- the columns start from the prepared binds, or from zeroed ones
  have hstart : ∀ b ∈ prepared.getD (List.replicate pi.paramcount ⟨.decimal, false⟩),
      b.bufferType.HasBind ∨ (b.bufferType = .decimal ∧ rows ≠ []) := by
    cases prepared with
    | none =>
      intro b hb
      rw [Option.getD_none] at hb
      rw [List.eq_of_mem_replicate hb]
      exact .inr ⟨rfl, fun h => hne h⟩
    | some bs => exact fun b hb => .inl ((hprep bs rfl).hasBind b hb)
  have hlen : (prepared.getD (List.replicate pi.paramcount ⟨.decimal, false⟩)).length =
      pi.paramcount := by
    cases prepared with
    | none => simp
    | some bs => exact (hprep bs rfl).length
  obtain ⟨hbs, hall⟩ := columnInfos_hasBind 0 _ binds hstart h
  exact ⟨hbs.trans hlen, hall⟩

end Check

/-! ### The send -/

section Send

variable {srv : Server} {pi : ParseInfo}

/-- With bulk operations, every column of a tuple of the right length has a value or an
indicator. -/
theorem getParameter_seq (hbulk : srv.bulkOperations = true) (hstyle : pi.paramstyle ≠ .pyformat)
    (rowNr : Nat) {vs : List PyValue} {col : Nat} (hcol : col < vs.length) :
    ∃ pv, getParameter srv pi rowNr col (.seq vs) = .ok pv := by
  unfold getParameter
  simp only [if_pos hstyle, List.getElem?_eq_getElem hcol]
  split
  · next e h => cases h
  · next i h => exact ⟨_, by rw [if_pos hbulk]⟩
  · next h => exact ⟨_, rfl⟩
  · next v h _ _ => exact ⟨_, rfl⟩

theorem paramUpdateColumn_ok {rowNr : Nat} {row : Row} {b : BindInfo} {col : Nat}
    (hb : b.bufferType.HasBind) {pv : ParamValue}
    (hpv : getParameter srv pi rowNr col row = .ok pv) :
    ∃ r, paramUpdateColumn srv pi rowNr row (b, col) = .ok r ∧ r.2.bufferType.HasBind := by
  obtain ⟨r, hr⟩ := Option.isSome_iff_exists.mp (paramToBind_isSome hb pv)
  refine ⟨r, ?_, hb.of_paramToBind hr⟩
  simp only [paramUpdateColumn, hpv, hr]

theorem paramUpdateRow_ok (hbulk : srv.bulkOperations = true) (hstyle : pi.paramstyle ≠ .pyformat)
    {binds : List BindInfo} (hfit : BindsFit pi binds) (rowNr : Nat) {vs : List PyValue}
    (hvs : vs.length = pi.paramcount) :
    ∃ r, paramUpdateRow srv pi rowNr (.seq vs) binds = .ok r ∧ r.length = binds.length ∧
      BindsFit pi (r.map Prod.snd) := by
  -- each column has a value in the tuple and a bind with a branch
  have hcol : ∀ x ∈ binds.zipIdx, ∃ r,
      paramUpdateColumn srv pi rowNr (.seq vs) x = .ok r ∧ r.2.bufferType.HasBind := by
    rintro ⟨b, col⟩ hx
    obtain ⟨-, hlt, hbcol⟩ := List.mem_zipIdx hx
    have hb : b.bufferType.HasBind := hbcol ▸ hfit.hasBind _ (List.getElem_mem _)
    obtain ⟨pv, hpv⟩ := getParameter_seq hbulk hstyle rowNr
      (show col < vs.length by rw [hvs, ← hfit.length]; simpa using hlt)
    exact paramUpdateColumn_ok hb hpv
  obtain ⟨r, hr, hlen, hall⟩ := Fallible.mapM_ok _ hcol
  refine ⟨r, hr, by simpa using hlen, ⟨by simpa [hfit.length] using hlen, ?_⟩⟩
  intro b hb
  obtain ⟨x, hx, rfl⟩ := List.mem_map.mp hb
  exact hall x hx

/-- **The run of the send.** From binds that fit, over rows that are tuples of one value per
placeholder, every row is sent: the binds each callback leaves still fit; by induction on the
rows. -/
theorem sendRows_ok (hbulk : srv.bulkOperations = true) (hstyle : pi.paramstyle ≠ .pyformat)
    {send : Nat → List Row → List BindInfo → Except PyError (List (List Sent))}
    (hsend : CallsPerRow srv pi send) :
    ∀ (rowNr : Nat) (rows : List Row) (binds : List BindInfo), BindsFit pi binds →
      (∀ row ∈ rows, ∃ vs, row = .seq vs ∧ vs.length = pi.paramcount) →
      ∃ sent, send rowNr rows binds = .ok sent ∧ sent.length = rows.length ∧
        ∀ s ∈ sent, s.length = pi.paramcount
  | rowNr, [], binds, _, _ => ⟨[], hsend.nil rowNr binds, rfl, by simp⟩
  | rowNr, row :: rows, binds, hfit, hrows => by
    rw [List.forall_mem_cons] at hrows
    obtain ⟨vs, rfl, hvs⟩ := hrows.1
    obtain ⟨r, hr, hlen, hfit'⟩ := paramUpdateRow_ok hbulk hstyle hfit rowNr hvs
    obtain ⟨sent, hsent, hslen, hall⟩ :=
      sendRows_ok hbulk hstyle hsend (rowNr + 1) rows _ hfit' hrows.2
    refine ⟨r.map Prod.fst :: sent, ?_, by simp [hslen], ?_⟩
    · rw [hsend.cons, hr]
      dsimp only
      rw [hsent]
    · rw [List.forall_mem_cons]
      exact ⟨by simp [hlen, hfit.length], hall⟩

end Send

/-- **What the check passes, the send sends.** On a server with bulk operations, for a statement
with `?` or `%s` placeholders, once `mariadb_check_bulk_parameters` accepts a parameter list, from a
new cursor's zeroed binds or a prepared cursor's binds that fit, the binds it leaves fit again and
the bulk request is built: `mariadb_param_update` succeeds on every row, the rows after a `break`
of the check included, and sends one value per placeholder. -/
theorem bulk_send_after_check (srv : Server) (hbulk : srv.bulkOperations = true) {pi : ParseInfo}
    (hstyle : pi.paramstyle ≠ .pyformat)
    {send : Nat → List Row → List BindInfo → Except PyError (List (List Sent))}
    (hsend : CallsPerRow srv pi send) {rows : List Row} {prepared : Option (List BindInfo)}
    (hprep : ∀ bs, prepared = some bs → BindsFit pi bs) {binds : List BindInfo}
    (hcheck : checkBulkParameters srv pi (some rows) prepared = .ok binds) :
    BindsFit pi binds ∧ ∃ sent, executeBulk srv pi send (some rows) prepared = .ok (binds, sent) ∧
      sent.length = rows.length ∧ ∀ s ∈ sent, s.length = pi.paramcount := by
  have hfit := checkBulkParameters_fit hprep hcheck
  -- the rows passed the row checks on the way
  have hrows : checkRows pi 0 rows = .ok () := by
    unfold checkBulkParameters at hcheck
    split at hcheck
    · cases hcheck
    · cases hcheck
    next rows' _ heq =>
    cases heq
    split at hcheck
    · cases hcheck
    next hr => exact hr
  obtain ⟨sent, hsent, hlen, hall⟩ :=
    sendRows_ok hbulk hstyle hsend 0 rows binds hfit (checkRows_seq hstyle 0 rows hrows)
  refine ⟨hfit, sent, ?_, hlen, hall⟩
  simp only [executeBulk, hcheck, Option.getD_some, hsent]

/-- A float row, a Decimal row that promotes the column to NEWDECIMAL and breaks the check, and a
string row the check never reads: all three are sent. -/
theorem bulk_send_after_promotion :
    (⟨true, "10.6"⟩ : Server).bulkOperations = true ∧
      (⟨.qmark, 1, []⟩ : ParseInfo).paramstyle ≠ .pyformat ∧
      (∀ bs, (none : Option (List BindInfo)) = some bs → BindsFit ⟨.qmark, 1, []⟩ bs) ∧
      checkBulkParameters ⟨true, "10.6"⟩ ⟨.qmark, 1, []⟩
          (some (singletonRows [.float "1.5", .decimal "2.5", .str "x"])) none =
        .ok [⟨.newdecimal, false⟩] ∧
      BindsFit ⟨.qmark, 1, []⟩ [⟨.newdecimal, false⟩] ∧
      CallsPerRow ⟨true, "10.6"⟩ ⟨.qmark, 1, []⟩ (sendRows ⟨true, "10.6"⟩ ⟨.qmark, 1, []⟩) ∧
      ∃ sent, executeBulk ⟨true, "10.6"⟩ ⟨.qmark, 1, []⟩ (sendRows ⟨true, "10.6"⟩ ⟨.qmark, 1, []⟩)
          (some (singletonRows [.float "1.5", .decimal "2.5", .str "x"])) none =
            .ok ([⟨.newdecimal, false⟩], sent) ∧
        sent.length = (singletonRows [.float "1.5", .decimal "2.5", .str "x"]).length ∧
        ∀ s ∈ sent, s.length = (⟨.qmark, 1, []⟩ : ParseInfo).paramcount := by
  have hcheck : checkBulkParameters ⟨true, "10.6"⟩ ⟨.qmark, 1, []⟩
      (some (singletonRows [.float "1.5", .decimal "2.5", .str "x"])) none =
        .ok [⟨.newdecimal, false⟩] := rfl
  have hprep : ∀ bs, (none : Option (List BindInfo)) = some bs → BindsFit ⟨.qmark, 1, []⟩ bs :=
    fun _ h => by cases h
  obtain ⟨hfit, hsent⟩ := bulk_send_after_check ⟨true, "10.6"⟩ rfl (by decide)
    (sendRows_callsPerRow _ _) hprep hcheck
  exact ⟨rfl, by decide, hprep, hcheck, hfit, sendRows_callsPerRow _ _, hsent⟩

end MariadbConnector
