import MariadbConnector.Codecs.Types

/-! `ConnectionPool`: the free and used lists, `add_connection`, `get_connection`, a pooled
connection's `close()` and `_replace_connection`. Python compares connections by identity. -/
namespace MariadbConnector

/-- A connection object: one the pool made (`mariadb.Connection(**conn_args)`), numbered in the
order made, or one a client made and passed to `add_connection`. -/
inductive Conn
  | made (n : Nat)
  | given (n : Nat)
  deriving DecidableEq, Repr

/-- The pool's settings: `pool_name`, `pool_size`, `pool_reset_connection`, and whether
`_conn_args` holds a configuration. -/
structure PoolConfig where
  name : String
  size : Nat
  resetConnection : Bool
  configured : Bool
  deriving DecidableEq, Repr

/-- `_connections_free` and `_connections_used`; of each connection, whether its
`_Connection__pool` is this pool, its `_used` count, whether it is closed (`_closed`) and its
`__last_used` stamp; how many connections the pool has made; and the reading of
`time.perf_counter_ns()` the next stamp takes, which only grows. -/
structure Pool where
  free : List Conn
  used : List Conn
  pooled : Conn → Bool
  uses : Conn → Nat
  closed : Conn → Bool
  made : Nat
  lastUsed : Conn → Nat
  clock : Nat

/-- A pool before its first connection. -/
def Pool.empty : Pool := ⟨[], [], fun _ => false, fun _ => 0, fun _ => false, 0, fun _ => 0, 0⟩

/-- `connection.__last_used = time.perf_counter_ns()`. -/
def Pool.stamp (p : Pool) (c : Conn) : Pool :=
  { p with lastUsed := Function.update p.lastUsed c p.clock, clock := p.clock + 1 }

/-! A stamp changes nothing else. -/

@[simp] theorem Pool.stamp_free (p : Pool) (c : Conn) : (p.stamp c).free = p.free := rfl

@[simp] theorem Pool.stamp_used (p : Pool) (c : Conn) : (p.stamp c).used = p.used := rfl

@[simp] theorem Pool.stamp_pooled (p : Pool) (c : Conn) : (p.stamp c).pooled = p.pooled := rfl

@[simp] theorem Pool.stamp_uses (p : Pool) (c : Conn) : (p.stamp c).uses = p.uses := rfl

@[simp] theorem Pool.stamp_closed (p : Pool) (c : Conn) : (p.stamp c).closed = p.closed := rfl

@[simp] theorem Pool.stamp_made (p : Pool) (c : Conn) : (p.stamp c).made = p.made := rfl

/-- What the server and the clock answer during one operation. -/
structure Answers where
  /-- What `mariadb.Connection(**conn_args)` raises, if anything. -/
  connect : Option PyError
  /-- The connection was idle for longer than `pool_validation_interval`. -/
  stale : Bool
  pingOk : Bool
  /-- `server_status & STATUS.IN_TRANS`. -/
  inTrans : Bool
  /-- `reset()`, or the `rollback()` in its place, succeeds. -/
  resetOk : Bool
  deriving DecidableEq, Repr

/-- The operations on a pool: `add_connection()`, `get_connection()`, and `close()` of a
connection. -/
inductive PoolOp
  | addConnection (conn : Option Conn)
  | getConnection
  | close (conn : Conn)
  deriving DecidableEq, Repr

/-- `Connection._check_closed`. -/
def Pool.checkClosed (p : Pool) (c : Conn) : Except PyError Unit :=
  if p.closed c then .error ⟨.programmingError, "Invalid connection or not connected"⟩ else .ok ()

/-- `super().close()`: the connection is closed for good. -/
def Pool.shut (p : Pool) (c : Conn) : Pool :=
  { p with closed := Function.update p.closed c true }

/-- `mariadb.Connection(**conn_args)` where it succeeds: a new connection, open and not used yet,
numbered by the pool's count. -/
def Pool.newConnection (p : Pool) : Pool :=
  { p with
    uses := Function.update p.uses (.made p.made) 0
    closed := Function.update p.closed (.made p.made) false
    made := p.made + 1 }

section Ops

variable (cfg : PoolConfig)

/-- The end of `add_connection`: the pool attribute set, the connection stamped and appended to
the free list. -/
def Pool.register (p : Pool) (c : Conn) : Pool :=
  ({ p with free := p.free ++ [c], pooled := Function.update p.pooled c true } : Pool).stamp c

@[simp] theorem Pool.register_free (p : Pool) (c : Conn) : (p.register c).free = p.free ++ [c] :=
  rfl

@[simp] theorem Pool.register_used (p : Pool) (c : Conn) : (p.register c).used = p.used := rfl

@[simp] theorem Pool.register_pooled (p : Pool) (c : Conn) :
    (p.register c).pooled = Function.update p.pooled c true := rfl

@[simp] theorem Pool.register_closed (p : Pool) (c : Conn) : (p.register c).closed = p.closed :=
  rfl

@[simp] theorem Pool.register_uses (p : Pool) (c : Conn) : (p.register c).uses = p.uses := rfl

@[simp] theorem Pool.register_made (p : Pool) (c : Conn) : (p.register c).made = p.made := rfl

/-- `ConnectionPool.add_connection`. The size is checked, membership is not. -/
def Pool.addConnection (p : Pool) (conn : Option Conn) (connect : Option PyError) :
    Pool × Except PyError Conn :=
  if cfg.configured = false then
    (p, .error ⟨.poolError, s!"Couldn't get configuration for pool {cfg.name}"⟩)
  else
    let total := (p.free ++ p.used).length
    if cfg.size ≤ total then
      (p, .error ⟨.poolError,
        s!"Can't add connection to pool {cfg.name}: No free slot available ({total})."⟩)
    else
      match conn with
      | some c => (p.register c, .ok c)
      | none =>
        match connect with
        | some e => (p, .error e)
        | none => (p.newConnection.register (.made p.made), .ok (.made p.made))

/-- The first part of `_replace_connection`: the connection leaves the list it is in and its
pool attribute is cleared. -/
def Pool.detach (p : Pool) (c : Conn) : Pool :=
  let p := if c ∈ p.free then { p with free := p.free.erase c }
    else if c ∈ p.used then { p with used := p.used.erase c } else p
  { p with pooled := Function.update p.pooled c false }

/-- `ConnectionPool._replace_connection`: the connection is detached, so that its `close()`
closes it for good, and a new one is added. -/
def Pool.replaceConnection (p : Pool) (c : Conn) (connect : Option PyError) :
    Pool × Except PyError Conn :=
  let p := p.detach c
  match p.checkClosed c with
  | .error e => (p, .error e)
  | .ok () => (p.shut c).addConnection cfg none connect

/-- The check in `get_connection`: a connection idle for too long is pinged, and replaced if
the ping fails; the ping of a closed connection always fails. -/
def Pool.validate (p : Pool) (c : Conn) (a : Answers) : Pool × Except PyError Conn :=
  if a.stale && (p.closed c || !a.pingOk) then p.replaceConnection cfg c a.connect
  else (p, .ok c)

/-- `ConnectionPool.get_connection`. The loop returns in its first pass: the first free
connection, or its replacement, is moved to the used list. -/
def Pool.getConnection (p : Pool) (a : Answers) : Pool × Except PyError Conn :=
  match p.free with
  | [] => (p, .error ⟨.poolError, "No connection available"⟩)
  | c :: _ =>
    match p.validate cfg c a with
    | (p, .error e) => (p, .error e)
    | (p, .ok c) =>
      ({ p with
          uses := Function.update p.uses c (p.uses c + 1)
          used := p.used ++ [c]
          free := p.free.erase c }, .ok c)

/-- The `try` of `_close_connection`: `reset()`, or `rollback()` in a transaction; where it
fails the connection is replaced, and an error of the replacement escapes. -/
def Pool.tryReset (p : Pool) (c : Conn) (a : Answers) : Pool × Option PyError :=
  let failed := if cfg.resetConnection then !a.resetOk else a.inTrans && !a.resetOk
  if failed then
    match p.replaceConnection cfg c a.connect with
    | (p, .error e) => (p, some e)
    | (p, .ok _) => (p, none)
  else (p, none)

/-- `ConnectionPool._close_connection`: after the reset, a used connection is stamped and goes
back to the free list. -/
def Pool.closeConnection (p : Pool) (c : Conn) (a : Answers) : Pool × Except PyError Unit :=
  match p.tryReset cfg c a with
  | (p, some e) => (p, .error e)
  | (p, none) =>
    if c ∈ p.used then
      (({ p with used := p.used.erase c, free := p.free ++ [c] } : Pool).stamp c, .ok ())
    else (p, .ok ())

/-- `Connection.close()`: refused on a closed connection; through the pool the connection
belongs to, else closed for good. -/
def Pool.close (p : Pool) (c : Conn) (a : Answers) : Pool × Except PyError Unit :=
  match p.checkClosed c with
  | .error e => (p, .error e)
  | .ok () => if p.pooled c then p.closeConnection cfg c a else (p.shut c, .ok ())

/-- One operation, with the connection it returns. -/
def Pool.step (p : Pool) : PoolOp → Answers → Pool × Except PyError (Option Conn)
  | .addConnection conn, a =>
    let r := p.addConnection cfg conn a.connect
    (r.1, r.2.map some)
  | .getConnection, a =>
    let r := p.getConnection cfg a
    (r.1, r.2.map some)
  | .close c, a =>
    let r := p.close cfg c a
    (r.1, r.2.map fun _ => none)

/-- The pool after a run of operations. -/
def Pool.run (p : Pool) (ops : List (PoolOp × Answers)) : Pool :=
  ops.foldl (fun p x => (p.step cfg x.1 x.2).1) p

/-- The connection exists: a client holds a connection the pool made only once it is made. -/
def Pool.Exists (p : Pool) : Conn → Prop
  | .made n => n < p.made
  | .given _ => True

/-- `add_connection` is passed no connection, or one in neither list. -/
def PoolOp.Allowed (p : Pool) : PoolOp → Prop
  | .addConnection (some c) => p.Exists c ∧ c ∉ p.free ∧ c ∉ p.used
  | _ => True

/-- Every operation of the run is allowed in the state it runs in. -/
def Pool.RunAllowed : Pool → List (PoolOp × Answers) → Prop
  | _, [] => True
  | p, (op, a) :: ops => op.Allowed p ∧ (p.step cfg op a).1.RunAllowed ops

/-- Putting back a connection that is checked out: `add_connection` has room, so the connection
is both free and used, and `get_connection` hands it out a second time. -/
theorem pool_add_checked_out :
    let cfg : PoolConfig := ⟨"pool", 2, true, true⟩
    let ok : Answers := ⟨none, false, true, false, true⟩
    let p := Pool.empty.run cfg
      [(.addConnection none, ok), (.getConnection, ok), (.addConnection (some (.made 0)), ok)]
    p.free = [.made 0] ∧ p.used = [.made 0] ∧
      (p.getConnection cfg ok).2 = .ok (.made 0) ∧
      (p.getConnection cfg ok).1.used = [.made 0, .made 0] := by
  decide

end Ops

/-! ### Moving an element between two lists -/

section Moved

variable {α : Type} [DecidableEq α] {xs ys : List α} {a : α}

theorem not_mem_moved (hx : xs.Nodup) (hd : ∀ b ∈ xs, b ∉ ys) :
    ∀ b ∈ xs.erase a, b ∉ ys ++ [a] := by
  intro b hb hby
  rw [hx.mem_erase_iff] at hb
  rcases List.mem_append.mp hby with hby | hby
  · exact hd b hb.2 hby
  · exact hb.1 (List.mem_singleton.mp hby)

theorem length_moved (ha : a ∈ xs) :
    (xs.erase a).length + (ys ++ [a]).length = xs.length + ys.length := by
  have := List.length_erase_of_mem ha
  have := List.length_pos_of_mem ha
  simp only [List.length_append, List.length_singleton]
  omega

theorem mem_moved (hx : xs.Nodup) (ha : a ∈ xs) (b : α) :
    b ∈ xs.erase a ∨ b ∈ ys ++ [a] ↔ b ∈ xs ∨ b ∈ ys := by
  rw [hx.mem_erase_iff, List.mem_append, List.mem_singleton]
  by_cases hba : b = a
  · subst hba
    simp [ha]
  · simp [hba]

end Moved

/-! ### The pool's invariant -/

/-- Each list holds a connection at most once and none is in both, together they fit the pool,
the connections in them are exactly those that point to the pool, and the connections the pool
made are numbered below its count. -/
structure Pool.Inv (cfg : PoolConfig) (p : Pool) : Prop where
  free_nodup : p.free.Nodup
  used_nodup : p.used.Nodup
  disjoint : ∀ c ∈ p.free, c ∉ p.used
  length_le : p.free.length + p.used.length ≤ cfg.size
  pooled_iff : ∀ c, p.pooled c = true ↔ c ∈ p.free ∨ c ∈ p.used
  made_lt : ∀ n, Conn.made n ∈ p.free ∨ Conn.made n ∈ p.used → n < p.made

section Inv

variable {cfg : PoolConfig} {p : Pool} {c : Conn}

theorem Pool.inv_empty : Pool.empty.Inv cfg where
  free_nodup := List.nodup_nil
  used_nodup := List.nodup_nil
  disjoint := by simp [Pool.empty]
  length_le := by simp [Pool.empty]
  pooled_iff := by simp [Pool.empty]
  made_lt := by simp [Pool.empty]

theorem Pool.Inv.used_not_free (h : p.Inv cfg) : ∀ d ∈ p.used, d ∉ p.free :=
  fun d hu hf => h.disjoint d hf hu

theorem Pool.Inv.of_eq (h : p.Inv cfg) {q : Pool} (hf : q.free = p.free) (hu : q.used = p.used)
    (hp : q.pooled = p.pooled) (hm : q.made = p.made) : q.Inv cfg where
  free_nodup := by rw [hf]; exact h.free_nodup
  used_nodup := by rw [hu]; exact h.used_nodup
  disjoint := by rw [hf, hu]; exact h.disjoint
  length_le := by rw [hf, hu]; exact h.length_le
  pooled_iff := by rw [hf, hu, hp]; exact h.pooled_iff
  made_lt := by rw [hf, hu, hm]; exact h.made_lt

theorem Pool.Inv.shut (h : p.Inv cfg) (c : Conn) : (p.shut c).Inv cfg :=
  h.of_eq rfl rfl rfl rfl

theorem Pool.Inv.stamp (h : p.Inv cfg) (c : Conn) : (p.stamp c).Inv cfg :=
  h.of_eq rfl rfl rfl rfl

@[simp] theorem Pool.shut_made (p : Pool) (c : Conn) : (p.shut c).made = p.made := rfl

theorem Pool.Inv.register (h : p.Inv cfg) (hf : c ∉ p.free) (hu : c ∉ p.used)
    (hlen : p.free.length + p.used.length < cfg.size) (hm : ∀ n, c = .made n → n < p.made) :
    (p.register c).Inv cfg where
  free_nodup := show (p.free ++ [c]).Nodup from List.concat_eq_append ▸ h.free_nodup.concat hf
  used_nodup := h.used_nodup
  disjoint := by
    intro d hd
    rcases List.mem_append.mp hd with hd | hd
    · exact h.disjoint d hd
    · rw [List.mem_singleton.mp hd]
      exact hu
  length_le := by
    simp only [Pool.register_free, Pool.register_used, List.length_append, List.length_singleton]
    omega
  pooled_iff := by
    intro d
    by_cases hdc : d = c
    · subst hdc
      simp [Pool.register]
    · simp [Pool.register, h.pooled_iff, hdc]
  made_lt := by
    intro n hn
    simp only [Pool.register_free, Pool.register_used, List.mem_append, List.mem_singleton] at hn
    rcases hn with (hn | hn) | hn
    · exact h.made_lt n (.inl hn)
    · exact hm n hn.symm
    · exact h.made_lt n (.inr hn)

theorem Pool.Inv.registerMade (h : p.Inv cfg) (hlen : p.free.length + p.used.length < cfg.size) :
    (p.newConnection.register (.made p.made)).Inv cfg := by
  have hbump : p.newConnection.Inv cfg :=
    { h with made_lt := fun n hn => Nat.lt_succ_of_lt (h.made_lt n hn) }
  have hnew : ∀ n, Conn.made p.made = .made n → n < p.made + 1 := by
    intro n hn
    cases hn
    exact Nat.lt_succ_self _
  exact hbump.register (fun hf => Nat.lt_irrefl _ (h.made_lt _ (.inl hf)))
    (fun hu => Nat.lt_irrefl _ (h.made_lt _ (.inr hu))) hlen hnew

theorem Pool.addConnection_error {conn : Option Conn} {connect : Option PyError} {p' : Pool}
    {e : PyError} (h : p.addConnection cfg conn connect = (p', .error e)) : p' = p := by
  unfold Pool.addConnection at h
  dsimp only at h
  split_ifs at h
  · exact (Prod.mk.inj h).1.symm
  · exact (Prod.mk.inj h).1.symm
  rcases conn with _ | c
  · cases connect with
    | some e => exact (Prod.mk.inj h).1.symm
    | none => cases h
  · cases h

theorem Pool.addConnection_ok {conn : Option Conn} {connect : Option PyError} {p' : Pool}
    {d : Conn} (h : p.addConnection cfg conn connect = (p', .ok d)) :
    p.free.length + p.used.length < cfg.size ∧
      ((conn = some d ∧ p' = p.register d) ∨
        (conn = none ∧ d = .made p.made ∧ p' = p.newConnection.register (.made p.made))) := by
  unfold Pool.addConnection at h
  dsimp only at h
  split_ifs at h with hcfg hfull
  · cases h
  · cases h
  rw [List.length_append] at hfull
  refine ⟨by omega, ?_⟩
  rcases conn with _ | c
  · cases connect with
    | some e => cases h
    | none =>
      obtain ⟨rfl, hd⟩ := Prod.mk.inj h
      cases hd
      exact .inr ⟨rfl, rfl, rfl⟩
  · obtain ⟨rfl, hd⟩ := Prod.mk.inj h
    cases hd
    exact .inl ⟨rfl, rfl⟩

theorem Pool.Inv.addConnection (h : p.Inv cfg) {conn : Option Conn}
    (hconn : ∀ c, conn = some c → p.Exists c ∧ c ∉ p.free ∧ c ∉ p.used)
    (connect : Option PyError) : (p.addConnection cfg conn connect).1.Inv cfg := by
  rcases hr : p.addConnection cfg conn connect with ⟨p', _ | d⟩
  · rw [Pool.addConnection_error hr]
    exact h
  obtain ⟨hlen, ⟨rfl, rfl⟩ | ⟨rfl, rfl, rfl⟩⟩ := Pool.addConnection_ok hr
  · -- a connection from the client: the caller vouches it is new to the pool
    obtain ⟨he, hf, hu⟩ := hconn d rfl
    refine h.register hf hu hlen fun n hn => ?_
    subst hn
    exact he
  · exact h.registerMade hlen

theorem Pool.addConnection_none_ok {connect : Option PyError} {p' : Pool}
    (h : p.addConnection cfg none connect = (p', .ok c)) : c = .made p.made := by
  obtain ⟨-, ⟨hc, -⟩ | ⟨-, hd, -⟩⟩ := Pool.addConnection_ok h
  · cases hc
  · exact hd

@[simp] theorem Pool.detach_made (p : Pool) (c : Conn) : (p.detach c).made = p.made := by
  unfold Pool.detach
  split_ifs <;> rfl

theorem Pool.detach_free_sublist (p : Pool) (c : Conn) : List.Sublist (p.detach c).free p.free := by
  unfold Pool.detach
  split_ifs
  · exact List.erase_sublist
  · exact List.Sublist.refl _
  · exact List.Sublist.refl _

theorem Pool.detach_used_sublist (p : Pool) (c : Conn) : List.Sublist (p.detach c).used p.used := by
  unfold Pool.detach
  split_ifs
  · exact List.Sublist.refl _
  · exact List.erase_sublist
  · exact List.Sublist.refl _

@[simp] theorem Pool.detach_pooled (p : Pool) (c : Conn) :
    (p.detach c).pooled = Function.update p.pooled c false := by
  unfold Pool.detach
  split_ifs <;> rfl

theorem Pool.Inv.mem_detach (h : p.Inv cfg) (d : Conn) :
    d ∈ (p.detach c).free ∨ d ∈ (p.detach c).used ↔ (d ∈ p.free ∨ d ∈ p.used) ∧ d ≠ c := by
  unfold Pool.detach
  split_ifs with hf hu
  · -- `c` is free, so not used
    simp only [h.free_nodup.mem_erase_iff]
    have := h.disjoint c hf
    constructor
    · rintro (⟨hne, hd⟩ | hd)
      · exact ⟨.inl hd, hne⟩
      · exact ⟨.inr hd, fun hdc => this (hdc ▸ hd)⟩
    · rintro ⟨hd | hd, hne⟩
      · exact .inl ⟨hne, hd⟩
      · exact .inr hd
  · simp only [h.used_nodup.mem_erase_iff]
    constructor
    · rintro (hd | ⟨hne, hd⟩)
      · exact ⟨.inl hd, fun hdc => hf (hdc ▸ hd)⟩
      · exact ⟨.inr hd, hne⟩
    · rintro ⟨hd | hd, hne⟩
      · exact .inl hd
      · exact .inr ⟨hne, hd⟩
  · constructor
    · rintro (hd | hd)
      · exact ⟨.inl hd, fun hdc => hf (hdc ▸ hd)⟩
      · exact ⟨.inr hd, fun hdc => hu (hdc ▸ hd)⟩
    · exact fun hd => hd.1

theorem Pool.Inv.detach (h : p.Inv cfg) (c : Conn) : (p.detach c).Inv cfg where
  free_nodup := (p.detach_free_sublist c).nodup h.free_nodup
  used_nodup := (p.detach_used_sublist c).nodup h.used_nodup
  disjoint := fun d hd hu => h.disjoint d ((p.detach_free_sublist c).subset hd)
    ((p.detach_used_sublist c).subset hu)
  length_le := by
    have := (p.detach_free_sublist c).length_le
    have := (p.detach_used_sublist c).length_le
    have := h.length_le
    omega
  pooled_iff := by
    intro d
    rw [h.mem_detach d, Pool.detach_pooled]
    by_cases hdc : d = c
    · subst hdc
      simp
    · simp [h.pooled_iff, hdc]
  made_lt := fun n hn => by
    rw [Pool.detach_made]
    exact h.made_lt n ((h.mem_detach _).mp hn).1

theorem Pool.Inv.checkOut (h : p.Inv cfg) (hc : c ∈ p.free) (n : Nat) :
    ({ p with
      uses := Function.update p.uses c n
      used := p.used ++ [c]
      free := p.free.erase c } : Pool).Inv cfg where
  free_nodup := h.free_nodup.erase c
  used_nodup := List.concat_eq_append ▸ h.used_nodup.concat (h.disjoint c hc)
  disjoint := not_mem_moved h.free_nodup h.disjoint
  length_le := (length_moved hc).trans_le h.length_le
  pooled_iff := fun d => (h.pooled_iff d).trans (mem_moved h.free_nodup hc d).symm
  made_lt := fun n hn => h.made_lt n ((mem_moved h.free_nodup hc _).mp hn)

theorem Pool.Inv.checkIn (h : p.Inv cfg) (hc : c ∈ p.used) :
    ({ p with used := p.used.erase c, free := p.free ++ [c] } : Pool).Inv cfg where
  free_nodup := List.concat_eq_append ▸ h.free_nodup.concat (h.used_not_free c hc)
  used_nodup := h.used_nodup.erase c
  disjoint := fun d hd hdu => not_mem_moved h.used_nodup h.used_not_free d hdu hd
  length_le := by
    have : (p.used.erase c).length + (p.free ++ [c]).length = p.used.length + p.free.length :=
      length_moved hc
    have := h.length_le
    dsimp only
    omega
  pooled_iff := fun d => by
    rw [h.pooled_iff, or_comm, ← mem_moved h.used_nodup hc d]
    exact or_comm
  made_lt := fun n hn => h.made_lt n (by
    rw [or_comm, ← mem_moved h.used_nodup hc]
    exact hn.symm)

theorem Pool.mem_free_of_addConnection {conn : Option Conn} {connect : Option PyError}
    {p' : Pool} {d : Conn} (h : p.addConnection cfg conn connect = (p', .ok d)) : d ∈ p'.free := by
  obtain ⟨-, ⟨-, rfl⟩ | ⟨-, rfl, rfl⟩⟩ := Pool.addConnection_ok h <;> simp [Pool.register]

theorem Pool.replaceConnection_ok {connect : Option PyError} {p' : Pool} {d : Conn}
    (h : p.replaceConnection cfg c connect = (p', .ok d)) :
    ((p.detach c).shut c).addConnection cfg none connect = (p', .ok d) := by
  unfold Pool.replaceConnection at h
  dsimp only at h
  split at h
  · cases h
  · exact h

theorem Pool.Inv.replaceConnection (h : p.Inv cfg) (c : Conn) (connect : Option PyError) :
    (p.replaceConnection cfg c connect).1.Inv cfg := by
  unfold Pool.replaceConnection
  dsimp only
  split
  · exact h.detach c
  · exact ((h.detach c).shut c).addConnection (fun _ hc => by cases hc) connect

theorem Pool.Inv.validate (h : p.Inv cfg) (hc : c ∈ p.free) (a : Answers) :
    (p.validate cfg c a).1.Inv cfg ∧
      ∀ d, (p.validate cfg c a).2 = .ok d → d ∈ (p.validate cfg c a).1.free := by
  unfold Pool.validate
  split_ifs
  · refine ⟨h.replaceConnection c a.connect, fun d hd => ?_⟩
    exact Pool.mem_free_of_addConnection (Pool.replaceConnection_ok (Prod.ext rfl hd))
  · exact ⟨h, fun d hd => by cases hd; exact hc⟩

theorem Pool.Inv.getConnection (h : p.Inv cfg) (a : Answers) :
    (p.getConnection cfg a).1.Inv cfg := by
  unfold Pool.getConnection
  cases hfree : p.free with
  | nil => exact h
  | cons c rest =>
    obtain ⟨hq, hmem⟩ := h.validate (c := c) (by rw [hfree]; exact List.mem_cons_self) a
    dsimp only
    rcases hv : p.validate cfg c a with ⟨q, _ | d⟩
    · rw [hv] at hq
      exact hq
    · rw [hv] at hq hmem
      exact hq.checkOut (hmem d rfl) _

theorem Pool.Inv.tryReset (h : p.Inv cfg) (c : Conn) (a : Answers) :
    (p.tryReset cfg c a).1.Inv cfg := by
  have hr := h.replaceConnection c a.connect
  unfold Pool.tryReset
  dsimp only
  by_cases hf : (if cfg.resetConnection then !a.resetOk else a.inTrans && !a.resetOk) = true
  · rw [if_pos hf]
    rcases hrep : p.replaceConnection cfg c a.connect with ⟨q, _ | d⟩ <;>
      rw [hrep] at hr <;> exact hr
  · rw [if_neg hf]
    exact h

theorem Pool.Inv.closeConnection (h : p.Inv cfg) (c : Conn) (a : Answers) :
    (p.closeConnection cfg c a).1.Inv cfg := by
  have hr := h.tryReset c a
  unfold Pool.closeConnection
  rcases hreset : p.tryReset cfg c a with ⟨q, _ | e⟩
  · rw [hreset] at hr
    dsimp only
    split_ifs with hc
    · exact (hr.checkIn hc).stamp c
    · exact hr
  · rw [hreset] at hr
    exact hr

theorem Pool.Inv.step (h : p.Inv cfg) {op : PoolOp} (hop : op.Allowed p) (a : Answers) :
    (p.step cfg op a).1.Inv cfg := by
  cases op with
  | addConnection conn =>
    refine h.addConnection (fun c hc => ?_) a.connect
    subst hc
    exact hop
  | getConnection => exact h.getConnection a
  | close c =>
    show (p.close cfg c a).1.Inv cfg
    unfold Pool.close
    split
    · exact h
    · split_ifs
      · exact h.closeConnection c a
      · exact h.shut c

theorem Pool.Inv.run (ops : List (PoolOp × Answers)) :
    ∀ p : Pool, p.Inv cfg → p.RunAllowed cfg ops → (p.run cfg ops).Inv cfg := by
  induction ops with
  | nil => exact fun p h _ => h
  | cons x ops ih =>
    intro p h hrun
    obtain ⟨op, a⟩ := x
    exact ih _ (h.step hrun.1 a) hrun.2

theorem Pool.Inv.getConnection_not_used (h : p.Inv cfg) {a : Answers} {p' : Pool} {d : Conn}
    (hg : p.getConnection cfg a = (p', .ok d)) : d ∉ p.used := by
  unfold Pool.getConnection at hg
  cases hfree : p.free with
  | nil =>
    rw [hfree] at hg
    cases hg
  | cons c rest =>
    rw [hfree] at hg
    dsimp only at hg
    rcases hv : p.validate cfg c a with ⟨q, _ | d'⟩
    · rw [hv] at hg
      cases hg
    rw [hv] at hg
    cases hg
    unfold Pool.validate at hv
    split_ifs at hv
    · -- a replacement is new
      rw [Pool.addConnection_none_ok (Pool.replaceConnection_ok hv), Pool.shut_made,
        Pool.detach_made]
      exact fun hu => Nat.lt_irrefl _ (h.made_lt _ (.inr hu))
    · cases hv
      exact h.disjoint _ (by rw [hfree]; exact List.mem_cons_self)

end Inv

/-- **The pool stays consistent.** Over every run from the empty pool in which
`add_connection` is passed no connection or a connection the pool does not list, the free and
used lists stay duplicate-free and disjoint and within the pool size, exactly the listed
connections carry the pool attribute, and `get_connection` never hands out a connection that
is checked out. -/
theorem pool_run_safe (cfg : PoolConfig) (ops : List (PoolOp × Answers))
    (h : Pool.empty.RunAllowed cfg ops) :
    (Pool.empty.run cfg ops).Inv cfg ∧
      ∀ a p' c, (Pool.empty.run cfg ops).getConnection cfg a = (p', .ok c) →
        c ∉ (Pool.empty.run cfg ops).used := by
  have hinv := Pool.Inv.run ops Pool.empty Pool.inv_empty h
  exact ⟨hinv, fun _ _ _ hg => hinv.getConnection_not_used hg⟩

/-- A connection made by the pool and checked out, then a connection of the caller's added. -/
theorem pool_run_safe_after_add :
    let cfg : PoolConfig := ⟨"pool", 2, true, true⟩
    let ok : Answers := ⟨none, false, true, false, true⟩
    let ops : List (PoolOp × Answers) :=
      [(.addConnection none, ok), (.getConnection, ok), (.addConnection (some (.given 7)), ok)]
    Pool.empty.RunAllowed cfg ops ∧ (Pool.empty.run cfg ops).Inv cfg ∧
      ∀ a p' c, (Pool.empty.run cfg ops).getConnection cfg a = (p', .ok c) →
        c ∉ (Pool.empty.run cfg ops).used := by
  intro cfg ok ops
  have hrun : Pool.empty.RunAllowed cfg ops := ⟨trivial, trivial, ⟨trivial, by decide, by decide⟩, trivial⟩
  exact ⟨hrun, pool_run_safe cfg ops hrun⟩

end MariadbConnector
