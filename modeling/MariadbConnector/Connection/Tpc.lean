import MariadbConnector.Codecs.Types

/-! Two-phase commit on a connection: the TPC methods, `commit` and `rollback` over
(`tpc_state`, `_xid`). What the server answers to each statement is an input. -/

namespace MariadbConnector

/-- `mariadb.constants.TPC_STATE`. -/
inductive TpcState
  | none
  | xid
  | prepare
  deriving DecidableEq, Repr

/-- A transaction id, the tuple `(format_id, transaction_id, branch_qualifier)`. -/
structure Xid where
  formatId : Int
  transactionId : String
  branchQualifier : String
  deriving DecidableEq, Repr

/-- `Connection.xid(format_id, transaction_id, branch_qualifier)`: at most `_MAX_TPC_XID_SIZE`
characters in each id, and a format id `0` replaced by `1`. -/
def mkXid (formatId : Int) (transactionId branchQualifier : String) : Except PyError Xid :=
  if 64 < transactionId.length then
    .error ⟨.programmingError, "Maximum length of transaction_id exceeded."⟩
  else if 64 < branchQualifier.length then
    .error ⟨.programmingError, "Maximum length of branch_qualifier exceeded."⟩
  else .ok ⟨if formatId = 0 then 1 else formatId, transactionId, branchQualifier⟩

/-- `"XA <command> '%s','%s',%s" % (xid[1], xid[2], xid[0])`, the statement every TPC method
builds: the ids interpolated as they are. -/
def xaStatement (command : String) (x : Xid) : String :=
  "XA " ++ command ++ " '" ++ x.transactionId ++ "','" ++ x.branchQualifier ++ "'," ++
    toString x.formatId

/-- What becomes of one statement: `_execute_command` raises, `_read_response` raises, or both
return. -/
inductive Reply
  | ok
  | sendError (e : PyError)
  | readError (e : PyError)
  deriving DecidableEq, Repr

/-- The TPC attributes of a connection. -/
structure TpcConnection where
  state : TpcState
  xid : Option Xid
  deriving DecidableEq, Repr

/-- A new connection: `TPC_STATE.NONE` and no xid. -/
def TpcConnection.fresh : TpcConnection := ⟨.none, none⟩

/-- The methods that read or write the TPC attributes, with their arguments. -/
inductive TpcOp
  | tpcBegin (x : Xid)
  | tpcPrepare
  | tpcCommit (x : Option Xid)
  | tpcRollback (x : Option Xid)
  | commit
  | rollback
  deriving DecidableEq, Repr

section Methods

-- the server's answer to each statement of the call
variable (reply : String → Reply)

/-- Both attributes cleared, as the `except` blocks and the end of `tpc_commit` leave them. -/
def TpcConnection.reset : TpcConnection := ⟨.none, none⟩

/-- A statement sent inside `try: ... except mariadb.Error: (reset); raise`. -/
def TpcConnection.guarded (c : TpcConnection) (stmt : String) : TpcConnection × Except PyError Unit :=
  match reply stmt with
  | .ok => (c, .ok ())
  | .sendError e | .readError e => (.reset, .error e)

/-- `XA END` in `tpc_commit` and `tpc_rollback`: `_execute_command` stands before the `try`, so
only a failed `_read_response` resets the attributes. -/
def TpcConnection.xaEnd (c : TpcConnection) (stmt : String) : TpcConnection × Except PyError Unit :=
  match reply stmt with
  | .ok => (c, .ok ())
  | .sendError e => (c, .error e)
  | .readError e => (.reset, .error e)

/-- `Connection.tpc_begin(xid)`: no test of the state; the statement's error is raised again. -/
def TpcConnection.tpcBegin (c : TpcConnection) (x : Xid) : TpcConnection × Except PyError Unit :=
  match reply (xaStatement "BEGIN" x) with
  | .ok => (⟨.xid, some x⟩, .ok ())
  | .sendError e | .readError e => (c, .error e)

/-- `Connection.tpc_prepare()`. -/
def TpcConnection.tpcPrepare (c : TpcConnection) : TpcConnection × Except PyError Unit :=
  if c.state = .none then (c, .error ⟨.programmingError, "Transaction not started."⟩)
  else if c.state = .prepare then
    (c, .error ⟨.programmingError, "Transaction is already in prepared state."⟩)
  else
    match c.xid with
    -- `xid[1]` on `None`
    | none => (c, .error ⟨.builtinError, "TypeError"⟩)
    | some x =>
      match c.guarded reply (xaStatement "END" x) with
      | (c, .error e) => (c, .error e)
      | (c, .ok ()) =>
        match c.guarded reply (xaStatement "PREPARE" x) with
        | (c, .error e) => (c, .error e)
        | (c, .ok ()) => ({ c with state := .prepare }, .ok ())

/-- `Connection.tpc_commit(xid=None)`: a transaction not prepared is ended and committed in one
phase. -/
def TpcConnection.tpcCommit (c : TpcConnection) (arg : Option Xid) :
    TpcConnection × Except PyError Unit :=
  let xid := arg.orElse fun _ => c.xid
  if c.state = .none then (c, .error ⟨.programmingError, "Transaction not started."⟩)
  else
    match xid with
    | none =>
      if c.state ≠ .prepare then (c, .error ⟨.programmingError, "Transaction is not prepared."⟩)
      else (c, .error ⟨.builtinError, "TypeError"⟩)
    | some x =>
      let ended := if c.state = .xid then c.xaEnd reply (xaStatement "END" x) else (c, .ok ())
      match ended with
      | (c', .error e) => (c', .error e)
      | (c', .ok ()) =>
        let stmt := xaStatement "COMMIT" x ++ (if c.state = .xid then " ONE PHASE" else "")
        match c'.guarded reply stmt with
        | (c', .error e) => (c', .error e)
        | (_, .ok ()) => (.reset, .ok ())

/-- `Connection.tpc_rollback(xid=None)`: it ends by setting `TPC_STATE.PREPARE` and keeps
`_xid`. -/
def TpcConnection.tpcRollback (c : TpcConnection) (arg : Option Xid) :
    TpcConnection × Except PyError Unit :=
  if c.state = .none then (c, .error ⟨.programmingError, "Transaction not started."⟩)
  else
    match arg.orElse fun _ => c.xid with
    | none => (c, .error ⟨.builtinError, "TypeError"⟩)
    | some x =>
      let ended := if c.state = .xid then c.xaEnd reply (xaStatement "END" x) else (c, .ok ())
      match ended with
      | (c', .error e) => (c', .error e)
      | (c', .ok ()) =>
        match c'.guarded reply (xaStatement "ROLLBACK" x) with
        | (c', .error e) => (c', .error e)
        | (c', .ok ()) => ({ c' with state := .prepare }, .ok ())

/-- `Connection.commit()` and `rollback()`: refused inside a TPC transaction, else the statement
is run. -/
def TpcConnection.plain (c : TpcConnection) (stmt msg : String) :
    TpcConnection × Except PyError Unit :=
  if c.state ≠ .none then (c, .error ⟨.programmingError, msg⟩)
  else
    match reply stmt with
    | .ok => (c, .ok ())
    | .sendError e | .readError e => (c, .error e)

def TpcConnection.commit (c : TpcConnection) : TpcConnection × Except PyError Unit :=
  c.plain reply "COMMIT" "commit() is not allowed if a TPC transaction is active"

def TpcConnection.rollback (c : TpcConnection) : TpcConnection × Except PyError Unit :=
  c.plain reply "ROLLBACK" "rollback() is not allowed if a TPC transaction is active"

/-- One method call. -/
def TpcConnection.step (c : TpcConnection) : TpcOp → TpcConnection × Except PyError Unit
  | .tpcBegin x => c.tpcBegin reply x
  | .tpcPrepare => c.tpcPrepare reply
  | .tpcCommit x => c.tpcCommit reply x
  | .tpcRollback x => c.tpcRollback reply x
  | .commit => c.commit reply
  | .rollback => c.rollback reply

end Methods

/-- The attributes after a run of calls, each with the server's answers to its statements. -/
def TpcConnection.run (c : TpcConnection) (ops : List (TpcOp × (String → Reply))) :
    TpcConnection :=
  ops.foldl (fun c x => (c.step x.2 x.1).1) c

/-! ### What each method can do: every outcome, with the guard that leads to it -/

theorem TpcState.eq_xid {s : TpcState} (hn : s ≠ .none) (hp : s ≠ .prepare) : s = .xid := by
  cases s <;> simp_all

section Outcomes

variable (reply : String → Reply) (c : TpcConnection)

theorem TpcConnection.guarded_cases (stmt : String) :
    c.guarded reply stmt = (c, .ok ()) ∨ ∃ e, c.guarded reply stmt = (.reset, .error e) := by
  unfold TpcConnection.guarded
  split
  · exact .inl rfl
  · exact .inr ⟨_, rfl⟩
  · exact .inr ⟨_, rfl⟩

theorem TpcConnection.xaEnd_cases (stmt : String) :
    c.xaEnd reply stmt = (c, .ok ()) ∨
      ∃ e, c.xaEnd reply stmt = (c, .error e) ∨ c.xaEnd reply stmt = (.reset, .error e) := by
  unfold TpcConnection.xaEnd
  split
  · exact .inl rfl
  · exact .inr ⟨_, .inl rfl⟩
  · exact .inr ⟨_, .inr rfl⟩

theorem TpcConnection.tpcBegin_cases (x : Xid) :
    (∃ e, c.tpcBegin reply x = (c, .error e)) ∨ c.tpcBegin reply x = (⟨.xid, some x⟩, .ok ()) := by
  unfold TpcConnection.tpcBegin
  split
  · exact .inr rfl
  · exact .inl ⟨_, rfl⟩
  · exact .inl ⟨_, rfl⟩

theorem TpcConnection.tpcPrepare_cases :
    (∃ e, c.tpcPrepare reply = (c, .error e)) ∨ (∃ e, c.tpcPrepare reply = (.reset, .error e)) ∨
      (c.state = .xid ∧ c.tpcPrepare reply = ({ c with state := .prepare }, .ok ())) := by
  unfold TpcConnection.tpcPrepare
  split_ifs with hn hp
  · exact .inl ⟨_, rfl⟩
  · exact .inl ⟨_, rfl⟩
  cases hx : c.xid with
  | none => exact .inl ⟨_, rfl⟩
  | some x =>
    dsimp only
    rcases TpcConnection.guarded_cases reply c (xaStatement "END" x)
      with h₁ | ⟨e, h₁⟩ <;> rw [h₁] <;> dsimp only
    · rcases TpcConnection.guarded_cases reply c (xaStatement "PREPARE" x)
        with h₂ | ⟨e, h₂⟩ <;> rw [h₂] <;> dsimp only
      · exact .inr (.inr ⟨TpcState.eq_xid hn hp, by rw [hx]⟩)
      · exact .inr (.inl ⟨e, rfl⟩)
    · exact .inr (.inl ⟨e, rfl⟩)

/-- The shared tail of `tpc_commit` and `tpc_rollback`: the optional `XA END` of a transaction
not prepared. -/
theorem TpcConnection.ended_cases (stmt : String) :
    (if c.state = .xid then c.xaEnd reply stmt else (c, .ok ())) = (c, .ok ()) ∨
      ∃ e, (if c.state = .xid then c.xaEnd reply stmt else (c, .ok ())) = (c, .error e) ∨
        (if c.state = .xid then c.xaEnd reply stmt else (c, .ok ())) = (.reset, .error e) := by
  split
  · exact TpcConnection.xaEnd_cases reply c stmt
  · exact .inl rfl

theorem TpcConnection.tpcCommit_cases (arg : Option Xid) :
    (∃ e, c.tpcCommit reply arg = (c, .error e)) ∨
      (∃ e, c.tpcCommit reply arg = (.reset, .error e)) ∨
      (c.state ≠ .none ∧ c.tpcCommit reply arg = (.reset, .ok ())) := by
  unfold TpcConnection.tpcCommit
  dsimp only
  by_cases hn : c.state = .none
  · rw [if_pos hn]
    exact .inl ⟨_, rfl⟩
  rw [if_neg hn]
  cases arg.orElse fun _ => c.xid with
  | none =>
    dsimp only
    split <;> exact .inl ⟨_, rfl⟩
  | some x =>
    dsimp only
    rcases TpcConnection.ended_cases reply c (xaStatement "END" x)
      with h₁ | ⟨e, h₁ | h₁⟩ <;> rw [h₁] <;> dsimp only
    · rcases TpcConnection.guarded_cases reply c
        (xaStatement "COMMIT" x ++ if c.state = .xid then " ONE PHASE" else "")
        with h₂ | ⟨e, h₂⟩ <;> rw [h₂] <;> dsimp only
      · exact .inr (.inr ⟨hn, rfl⟩)
      · exact .inr (.inl ⟨e, rfl⟩)
    · exact .inl ⟨e, rfl⟩
    · exact .inr (.inl ⟨e, rfl⟩)

/-- `tpc_rollback` raises with the attributes kept or cleared, or succeeds and sets `PREPARE`,
keeping `_xid`. -/
theorem TpcConnection.tpcRollback_cases (arg : Option Xid) :
    (∃ e, c.tpcRollback reply arg = (c, .error e)) ∨
      (∃ e, c.tpcRollback reply arg = (.reset, .error e)) ∨
      (c.state ≠ .none ∧ c.tpcRollback reply arg = ({ c with state := .prepare }, .ok ())) := by
  unfold TpcConnection.tpcRollback
  by_cases hn : c.state = .none
  · rw [if_pos hn]
    exact .inl ⟨_, rfl⟩
  rw [if_neg hn]
  cases arg.orElse fun _ => c.xid with
  | none => exact .inl ⟨_, rfl⟩
  | some x =>
    dsimp only
    rcases TpcConnection.ended_cases reply c (xaStatement "END" x)
      with h₁ | ⟨e, h₁ | h₁⟩ <;> rw [h₁] <;> dsimp only
    · rcases TpcConnection.guarded_cases reply c (xaStatement "ROLLBACK" x)
        with h₂ | ⟨e, h₂⟩ <;> rw [h₂] <;> dsimp only
      · exact .inr (.inr ⟨hn, rfl⟩)
      · exact .inr (.inl ⟨e, rfl⟩)
    · exact .inl ⟨e, rfl⟩
    · exact .inr (.inl ⟨e, rfl⟩)

theorem TpcConnection.plain_fst (stmt msg : String) : (c.plain reply stmt msg).1 = c := by
  unfold TpcConnection.plain
  split_ifs
  · rfl
  · split <;> rfl

theorem TpcConnection.plain_of_ne {c : TpcConnection} {stmt msg : String}
    (h : c.state ≠ .none) :
    c.plain reply stmt msg = (c, .error ⟨.programmingError, msg⟩) := if_pos h

end Outcomes

/-! ### `tpc_state` is `NONE` exactly when `_xid` is `None` -/

/-- The attributes agree: a state other than `NONE` has an xid. -/
def TpcConnection.Agrees (c : TpcConnection) : Prop := c.state = .none ↔ c.xid = none

section Agrees

variable {reply : String → Reply} {c : TpcConnection}

theorem TpcConnection.agrees_fresh : TpcConnection.fresh.Agrees := by
  simp [TpcConnection.Agrees, TpcConnection.fresh]

theorem TpcConnection.agrees_reset : TpcConnection.reset.Agrees := by
  simp [TpcConnection.Agrees, TpcConnection.reset]

theorem TpcConnection.Agrees.setState (h : c.Agrees) (hc : c.state ≠ .none) {s : TpcState}
    (hs : s ≠ .none) : ({ c with state := s } : TpcConnection).Agrees := by
  have hx : c.xid ≠ none := fun hx => hc (h.mpr hx)
  simp [TpcConnection.Agrees, hs, hx]

theorem TpcConnection.Agrees.step (h : c.Agrees) (op : TpcOp) : (c.step reply op).1.Agrees := by
  cases op with
  | tpcBegin x =>
    rcases TpcConnection.tpcBegin_cases reply c x with ⟨e, he⟩ | he <;>
      simp only [TpcConnection.step, he]
    · exact h
    · simp [TpcConnection.Agrees]
  | tpcPrepare =>
    rcases TpcConnection.tpcPrepare_cases reply c
      with ⟨e, he⟩ | ⟨e, he⟩ | ⟨hx, he⟩ <;> simp only [TpcConnection.step, he]
    · exact h
    · exact TpcConnection.agrees_reset
    · exact h.setState (by simp [hx]) (by simp)
  | tpcCommit x =>
    rcases TpcConnection.tpcCommit_cases reply c x
      with ⟨e, he⟩ | ⟨e, he⟩ | ⟨-, he⟩ <;> simp only [TpcConnection.step, he]
    · exact h
    · exact TpcConnection.agrees_reset
    · exact TpcConnection.agrees_reset
  | tpcRollback x =>
    rcases TpcConnection.tpcRollback_cases reply c x
      with ⟨e, he⟩ | ⟨e, he⟩ | ⟨hn, he⟩ <;> simp only [TpcConnection.step, he]
    · exact h
    · exact TpcConnection.agrees_reset
    · exact h.setState hn (by simp)
  | commit => simpa only [TpcConnection.step, TpcConnection.commit, TpcConnection.plain_fst]
  | rollback => simpa only [TpcConnection.step, TpcConnection.rollback, TpcConnection.plain_fst]

theorem TpcConnection.Agrees.run (h : c.Agrees) (ops : List (TpcOp × (String → Reply))) :
    (c.run ops).Agrees := by
  -- induction on the calls, the state generalised
  induction ops generalizing c with
  | nil => exact h
  | cons op ops ih => exact ih (h.step op.1)

/-- **`tpc_state` is `NONE` exactly when `_xid` is `None`.** From a new connection, over every
run of the TPC methods, `commit()` and `rollback()`, whatever the server answers to each
statement. -/
theorem tpc_state_none_iff_no_xid (ops : List (TpcOp × (String → Reply))) :
    (TpcConnection.fresh.run ops).state = .none ↔ (TpcConnection.fresh.run ops).xid = none :=
  TpcConnection.agrees_fresh.run ops

end Agrees

/-! ### Where the methods leave the state machine -/

/-- The server answers every statement but one, which it fails to receive. -/
def Reply.failingSend (stmt : String) (e : PyError) (s : String) : Reply :=
  if s = stmt then .sendError e else .ok

theorem tpc_rollback_keeps_transaction (x : Xid) (e : PyError) :
    TpcConnection.fresh.run [(.tpcBegin x, fun _ => .ok), (.tpcRollback none, fun _ => .ok)] =
        ⟨.prepare, some x⟩ ∧
      TpcConnection.commit (fun _ => .ok) ⟨.prepare, some x⟩ =
        (⟨.prepare, some x⟩,
          .error ⟨.programmingError, "commit() is not allowed if a TPC transaction is active"⟩) ∧
      TpcConnection.tpcRollback (Reply.failingSend (xaStatement "END" x) e) ⟨.xid, some x⟩ none =
        (⟨.xid, some x⟩, .error e) ∧
      TpcConnection.tpcCommit (Reply.failingSend (xaStatement "END" x) e) ⟨.xid, some x⟩ none =
        (⟨.xid, some x⟩, .error e) := by
  refine ⟨rfl, TpcConnection.plain_of_ne _ (by simp), ?_, ?_⟩
  · simp [TpcConnection.tpcRollback, TpcConnection.xaEnd, Reply.failingSend]
  · simp [TpcConnection.tpcCommit, TpcConnection.xaEnd, Reply.failingSend]

end MariadbConnector
