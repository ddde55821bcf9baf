import MariadbConnector.Pool.ConnectionPool
import MariadbConnector.Lib.Sweep

/-! `ConnectionPool.__init__`: the connections it makes, and the handler that closes the free list
with `del` while walking it when a connect raises. -/

namespace MariadbConnector

open Sweep

/-- `MAX_POOL_SIZE`. -/
def maxPoolSize : Nat := 64

/-- The exceptions `except mariadb.Error` catches: all but Python's own. -/
def PyError.isMariadb (e : PyError) : Bool := e.cls != .builtinError

/-- `IndexError: list index out of range`. -/
def indexError : PyError := ⟨.builtinError, "IndexError"⟩

section Init

variable (cfg : PoolConfig)

/-- `del self._connections_free[j]`. -/
def Pool.delFree (p : Pool) (j : Nat) : Pool × Except PyError Unit :=
  if j < p.free.length then ({ p with free := p.free.eraseIdx j }, .ok ())
  else (p, .error indexError)

/-- One pass of the cleanup loop: `self._connections_free[j].close()`, where a `mariadb.Error` is
ignored, then `del self._connections_free[j]`. -/
def Pool.cleanupStep (p : Pool) (j : Nat) (a : Answers) : Pool × Except PyError Unit :=
  match p.free[j]? with
  | none => (p, .error indexError)
  | some c =>
    match p.close cfg c a with
    | (p, .error e) => if e.isMariadb then p.delFree j else (p, .error e)
    | (p, .ok ()) => p.delFree j

/-- The cleanup loop over the indices `js`; `answers j` is what the server answers during the
`j`-th pass. -/
def Pool.cleanup (answers : Nat → Answers) (p : Pool) : List Nat → Pool × Except PyError Unit
  | [] => (p, .ok ())
  | j :: js =>
    match p.cleanupStep cfg j (answers j) with
    | (p, .error e) => (p, .error e)
    | (p, .ok ()) => p.cleanup answers js

/-- The fill loop over the indices `is`: `mariadb.Connection(**conn_args)`, which raises
`connects i` if anything, then `add_connection(connection)`. A `mariadb.Error` of the connect
runs the cleanup and is raised again. -/
def Pool.fill (connects : Nat → Option PyError) (answers : Nat → Answers) (p : Pool) :
    List Nat → Pool × Except PyError Unit
  | [] => (p, .ok ())
  | i :: is =>
    match connects i with
    | some e =>
      if e.isMariadb then
        match p.cleanup cfg answers (List.range p.free.length) with
        | (p, .error e') => (p, .error e')
        | (p, .ok ()) => (p, .error e)
      else (p, .error e)
    | none =>
      match p.newConnection.addConnection cfg (some (.made p.made)) none with
      | (p, .error e) => (p, .error e)
      | (p, .ok _) => p.fill connects answers is

/-- `ConnectionPool.__init__` given a `pool_name`: the name must be new and the size in range,
the pool is filled when `conn_args` holds a configuration, and its name is added to the names
registered in `mariadb._CONNECTION_POOLS` last. -/
def Pool.init (pools : List String) (connects : Nat → Option PyError) (answers : Nat → Answers) :
    Pool × List String × Except PyError Unit :=
  if cfg.name ∈ pools then
    (Pool.empty, pools, .error ⟨.programmingError, s!"Pool '{cfg.name}' already exists"⟩)
  else if ¬(0 < cfg.size ∧ cfg.size ≤ maxPoolSize) then
    (Pool.empty, pools,
      .error ⟨.programmingError, s!"Pool size must be in range of 1 and {maxPoolSize}"⟩)
  else
    let r := if cfg.configured then Pool.empty.fill cfg connects answers (List.range cfg.size)
      else (Pool.empty, .ok ())
    match r with
    | (p, .error e) => (p, pools, .error e)
    | (p, .ok ()) => (p, cfg.name :: pools, .ok ())

end Init

/-! ### The cleanup loop when every reset succeeds -/

section Cleanup

variable {cfg : PoolConfig} {answers : Nat → Answers}

theorem Pool.tryReset_of_resetOk {p : Pool} {c : Conn} {a : Answers} (hreset : a.resetOk = true) :
    p.tryReset cfg c a = (p, none) := by
  have hfailed : (if cfg.resetConnection then !a.resetOk else a.inTrans && !a.resetOk) = false := by
    split_ifs <;> simp [hreset]
  simp only [Pool.tryReset, hfailed, Bool.false_eq_true, if_false]

/-- A free connection that points to the pool and is open: its `close()` is `_close_connection`,
which resets it and leaves it where it is. -/
theorem Pool.close_of_free {p : Pool} {c : Conn} {a : Answers} (hpooled : p.pooled c = true)
    (hopen : p.closed c = false) (hused : c ∉ p.used) (hreset : a.resetOk = true) :
    p.close cfg c a = (p, .ok ()) := by
  simp only [Pool.close, Pool.checkClosed, hopen, Bool.false_eq_true, if_false, hpooled, if_true,
    Pool.closeConnection, Pool.tryReset_of_resetOk hreset, hused]

/-- The free connections point to the pool, are open and are not checked out. -/
def Pool.FreeOpen (p : Pool) : Prop :=
  ∀ c ∈ p.free, p.pooled c = true ∧ p.closed c = false ∧ c ∉ p.used

theorem Pool.cleanupStep_of_lt {p : Pool} (hp : p.FreeOpen) {j : Nat} (hj : j < p.free.length)
    {a : Answers} (hreset : a.resetOk = true) :
    p.cleanupStep cfg j a = ({ p with free := p.free.eraseIdx j }, .ok ()) := by
  have hmem := List.getElem_mem hj
  obtain ⟨hpooled, hopen, hused⟩ := hp _ hmem
  simp only [Pool.cleanupStep, List.getElem?_eq_getElem hj,
    Pool.close_of_free hpooled hopen hused hreset, Pool.delFree, if_pos hj]

theorem Pool.cleanupStep_of_le {p : Pool} {j : Nat} (hj : p.free.length ≤ j) (a : Answers) :
    p.cleanupStep cfg j a = (p, .error indexError) := by
  simp only [Pool.cleanupStep, List.getElem?_eq_none hj]

/-- With every reset succeeding, the cleanup loop is the walk of `Sweep.sweep` over the free
list: it only deletes, and it ends on `IndexError` where the walk runs past the end. -/
theorem Pool.cleanup_sweep (cfg : PoolConfig) (hreset : ∀ j, (answers j).resetOk = true) :
    ∀ (k j : Nat) (p : Pool), p.FreeOpen →
      p.cleanup cfg answers (List.range' j k) =
        ({ p with free := (sweep p.free j k).1 },
          if (sweep p.free j k).2 then .ok () else .error indexError) := by
  intro k
  induction k with
  | zero => intro j p _; rfl
  | succ k ih =>
    intro j p hp
    rw [List.range'_succ, Pool.cleanup]
    by_cases hj : j < p.free.length
    · -- the connection at `j` is reset and deleted; the others keep their state
      have hp' : ({ p with free := p.free.eraseIdx j } : Pool).FreeOpen :=
        fun c hc => hp c (List.mem_of_mem_eraseIdx hc)
      rw [Pool.cleanupStep_of_lt hp hj (hreset j)]
      simp only [sweep, if_pos hj]
      exact ih (j + 1) _ hp'
    · rw [Pool.cleanupStep_of_le (Nat.le_of_not_lt hj)]
      simp [sweep, hj]

end Cleanup

/-! ### The fill loop -/

section Fill

variable {cfg : PoolConfig} {connects : Nat → Option PyError}

/-- The pool after its first `i` connections were made and added. -/
def Pool.Filled (p : Pool) (i : Nat) : Prop :=
  p.free = (List.range i).map Conn.made ∧ p.used = [] ∧ p.made = i ∧
    (∀ c ∈ p.free, p.pooled c = true) ∧ (∀ c, p.closed c = false) ∧ ∀ c, p.uses c = 0

theorem Pool.filled_empty : Pool.empty.Filled 0 :=
  ⟨rfl, rfl, rfl, fun _ h => absurd h List.not_mem_nil, fun _ => rfl, fun _ => rfl⟩

theorem Pool.Filled.freeOpen {p : Pool} {i : Nat} (hp : p.Filled i) : p.FreeOpen := by
  obtain ⟨_, hused, _, hpooled, hopen, _⟩ := hp
  intro c hc
  exact ⟨hpooled c hc, hopen c, by simp [hused]⟩

theorem Pool.Filled.add {p : Pool} {i : Nat} (hp : p.Filled i) (cfg : PoolConfig) (hi : i < cfg.size)
    (hconf : cfg.configured = true) :
    ∃ q, p.newConnection.addConnection cfg (some (.made p.made)) none = (q, .ok (.made i)) ∧
      q.Filled (i + 1) := by
  obtain ⟨hfree, hused, hmade, hpooled, hopen, huses⟩ := hp
  have hroom : ¬cfg.size ≤ (p.newConnection.free ++ p.newConnection.used).length := by
    simp [Pool.newConnection, hfree, hused, hi]
  refine ⟨p.newConnection.register (.made i), ?_, ?_, ?_, ?_, ?_, ?_, ?_⟩
  · simp only [Pool.addConnection, hconf, Bool.true_eq_false, if_false, hroom, hmade]
  · simp [Pool.newConnection, hfree, List.range_succ]
  · simp [Pool.newConnection, hused]
  · simp [Pool.newConnection, hmade]
  · intro c hmem
    by_cases hc : c = .made i
    · simp [hc]
    · have hold : c ∈ p.free := by
        simp only [Pool.register_free, Pool.newConnection, List.mem_append,
          List.mem_singleton, hmade] at hmem
        exact hmem.resolve_right hc
      simp only [Pool.register_pooled, Function.update_of_ne hc]
      exact hpooled c hold
  · intro c
    by_cases hc : c = .made p.made
    · simp [Pool.newConnection, hc]
    · simp [Pool.newConnection, Function.update_of_ne hc, hopen]
  · intro c
    simp [Pool.newConnection, Function.update_apply, huses]

/-- The fill loop from the `i`-th connection, when the connects succeed up to the `n`-th and that
one raises a `mariadb.Error`: the pool is filled to `n` connections and the cleanup runs on it. -/
theorem Pool.fill_of_connect_error (answers : Nat → Answers) (hconf : cfg.configured = true)
    {n : Nat} {e : PyError}
    (hok : ∀ j < n, connects j = none) (he : connects n = some e) (hmar : e.isMariadb = true) :
    ∀ (m i : Nat) (p : Pool), p.Filled i → i ≤ n → n < i + m → i + m ≤ cfg.size →
      ∃ q : Pool, q.Filled n ∧ p.fill cfg connects answers (List.range' i m) =
        match q.cleanup cfg answers (List.range q.free.length) with
        | (q, .error e') => (q, .error e')
        | (q, .ok ()) => (q, .error e) := by
  intro m
  induction m with
  | zero => intro i p _ hin hnm _; omega
  | succ m ih =>
    intro i p hp hin hnm hsize
    rw [List.range'_succ, Pool.fill]
    by_cases hi : i = n
    · -- the failing connect: the cleanup runs on the pool filled so far
      subst hi
      refine ⟨p, hp, ?_⟩
      simp only [he, hmar, if_true]
    · obtain ⟨q, hadd, hq⟩ := hp.add cfg (by omega) hconf
      rw [hok i (by omega), hadd]
      exact ih (i + 1) q hq (by omega) (by omega) (by omega)

theorem Pool.fill_ok (answers : Nat → Answers) (hconf : cfg.configured = true)
    (hok : ∀ j < cfg.size, connects j = none) :
    ∀ (m i : Nat) (p : Pool), p.Filled i → i + m = cfg.size →
      ∃ q : Pool, q.Filled cfg.size ∧ p.fill cfg connects answers (List.range' i m) = (q, .ok ()) := by
  intro m
  induction m with
  | zero => intro i p hp him; exact ⟨p, by rw [← him]; exact hp, rfl⟩
  | succ m ih =>
    intro i p hp him
    rw [List.range'_succ, Pool.fill, hok i (by omega)]
    obtain ⟨q, hadd, hq⟩ := hp.add cfg (by omega) hconf
    rw [hadd]
    exact ih (i + 1) q hq (by omega)

theorem Pool.init_ok (pools : List String) (answers : Nat → Answers) (hname : cfg.name ∉ pools)
    (hpos : 0 < cfg.size) (hsize : cfg.size ≤ maxPoolSize) (hconf : cfg.configured = true)
    (hok : ∀ i < cfg.size, connects i = none) :
    ∃ q : Pool, q.Filled cfg.size ∧
      Pool.init cfg pools connects answers = (q, cfg.name :: pools, .ok ()) := by
  obtain ⟨q, hq, hfill⟩ := Pool.fill_ok answers hconf hok cfg.size 0 Pool.empty Pool.filled_empty
    (Nat.zero_add _)
  refine ⟨q, hq, ?_⟩
  simp only [Pool.init, if_neg hname, hpos, hsize, and_self, not_true_eq_false, if_false, hconf,
    if_true, List.range_eq_range', hfill]

end Fill

/-- **A failed connect in `__init__` leaves connections open and can raise `IndexError`.** When
the connect of the `(n + 1)`-th connection raises a `mariadb.Error` and every reset succeeds, the
cleanup only resets the `n` connections made, none is closed, the pool is not registered, and for
`n ≥ 2` the loop runs past the end of the shrinking list: `IndexError` replaces the error, and the
connections at the odd places stay in the free list. -/
theorem pool_init_connect_error (cfg : PoolConfig) (pools : List String)
    (connects : Nat → Option PyError) (answers : Nat → Answers) {n : Nat} {e : PyError}
    (hname : cfg.name ∉ pools) (hsize : cfg.size ≤ maxPoolSize) (hconf : cfg.configured = true)
    (hn : n < cfg.size) (hok : ∀ i < n, connects i = none) (he : connects n = some e)
    (hmar : e.isMariadb = true) (hreset : ∀ j, (answers j).resetOk = true) :
    (Pool.init cfg pools connects answers).2.1 = pools ∧
      (Pool.init cfg pools connects answers).2.2 = .error (if n ≤ 1 then e else indexError) ∧
      (Pool.init cfg pools connects answers).1.free = oddPlaces ((List.range n).map Conn.made) ∧
      ∀ i < n, (Pool.init cfg pools connects answers).1.closed (.made i) = false := by
  obtain ⟨q, hq, hfill⟩ := Pool.fill_of_connect_error answers hconf hok he hmar
    cfg.size 0 Pool.empty Pool.filled_empty (Nat.zero_le n) (by omega) (by omega)
  have hlen : q.free.length = n := by simp [hq.1]
  -- the cleanup walks the `n` connections of the free list from the front
  have hclean := Pool.cleanup_sweep cfg hreset n 0 q hq.freeOpen
  have hsweep : sweep q.free 0 n = (oddPlaces q.free, decide (n ≤ 1)) := by
    rw [← hlen]
    exact sweep_zero q.free
  rw [hsweep] at hclean
  have hinit : Pool.init cfg pools connects answers =
      ({ q with free := oddPlaces q.free }, pools, .error (if n ≤ 1 then e else indexError)) := by
    have hpos : 0 < cfg.size := by omega
    simp only [Pool.init, if_neg hname, hpos, hsize, and_self, not_true_eq_false, if_false, hconf,
      if_true, List.range_eq_range', hfill, hclean, hlen]
    by_cases h1 : n ≤ 1 <;> simp [h1]
  rw [hinit]
  exact ⟨rfl, rfl, by rw [hq.1, oddPlaces_map], fun i _ => hq.2.2.2.2.1 _⟩

/-- A pool of three whose third connect fails: the error becomes `IndexError`, one connection is
left in the free list, and neither is closed. -/
theorem pool_init_third_connect_fails :
    let cfg : PoolConfig := ⟨"pool", 3, true, true⟩
    let e : PyError := ⟨.interfaceError, "Can't connect to server"⟩
    let ok : Answers := ⟨none, false, true, false, true⟩
    let connects : Nat → Option PyError := fun i => if i < 2 then none else some e
    (Pool.init cfg [] connects (fun _ => ok)).2.1 = [] ∧
      (Pool.init cfg [] connects (fun _ => ok)).2.2 = .error indexError ∧
      (Pool.init cfg [] connects (fun _ => ok)).1.free = [.made 1] ∧
      ∀ i < 2, (Pool.init cfg [] connects (fun _ => ok)).1.closed (.made i) = false :=
  pool_init_connect_error _ _ _ _ (by decide) (by decide) rfl (by decide)
    (fun i hi => if_pos hi) rfl rfl (fun _ => rfl)

end MariadbConnector
