import MariadbConnector.Pool.Init

/-! `ConnectionPool.close()`: every connection on the free and used lists is closed for good,
those checked out included. -/

namespace MariadbConnector

/-- \`c._Connection__pool = None\`: the connection no longer closes through the pool. -/
def Pool.unpool (p : Pool) (c : Conn) : Pool :=
  { p with pooled := Function.update p.pooled c false }

@[simp] theorem Pool.unpool_closed (p : Pool) (c : Conn) : (p.unpool c).closed = p.closed := rfl

@[simp] theorem Pool.unpool_pooled (p : Pool) (c : Conn) :
    (p.unpool c).pooled = Function.update p.pooled c false := rfl

@[simp] theorem Pool.shut_closed (p : Pool) (c : Conn) :
    (p.shut c).closed = Function.update p.closed c true := rfl

@[simp] theorem Pool.shut_pooled (p : Pool) (c : Conn) : (p.shut c).pooled = p.pooled := rfl

section Close

variable (cfg : PoolConfig)

/-- The loop of `close()` over `self._connections_free + self._connections_used`: the pool
attribute cleared, then `c.close()`, which no longer goes through the pool. The first error ends
the loop. -/
def Pool.closeAll (a : Answers) (p : Pool) : List Conn → Pool × Option PyError
  | [] => (p, none)
  | c :: cs =>
    match (p.unpool c).close cfg c a with
    | (p, .error e) => (p, some e)
    | (p, .ok ()) => p.closeAll a cs

/-- `ConnectionPool.close()`: the loop, then in its `finally` the pool's name deleted from
`mariadb._CONNECTION_POOLS`, which raises `KeyError` for a name not there, replacing the loop's
error. The lists become `None`: the pool is not used after, and what the model keeps of it is
the state of each connection. -/
def Pool.closePool (p : Pool) (pools : List String) (a : Answers) :
    Pool × List String × Option PyError :=
  let r := p.closeAll cfg a (p.free ++ p.used)
  if cfg.name ∈ pools then (r.1, pools.erase cfg.name, r.2)
  else (r.1, pools, some ⟨.builtinError, "KeyError"⟩)

end Close

/-- Every connection the pool lists is open. -/
def Pool.ListedOpen (p : Pool) : Prop := ∀ c, c ∈ p.free ∨ c ∈ p.used → p.closed c = false

/-- A connection passed to `add_connection` is open. -/
def PoolOp.AddsOpen (p : Pool) : PoolOp → Prop
  | .addConnection (some c) => p.closed c = false
  | _ => True

/-- Every connection passed to `add_connection` in the run is open when it is passed. -/
def Pool.RunAddsOpen (cfg : PoolConfig) : Pool → List (PoolOp × Answers) → Prop
  | _, [] => True
  | p, (op, a) :: ops => op.AddsOpen p ∧ (p.step cfg op a).1.RunAddsOpen cfg ops

/-! ### The listed connections stay open -/

section ListedOpen

variable {cfg : PoolConfig} {p q : Pool} {c : Conn}

theorem Pool.ListedOpen.of_listed (h : p.ListedOpen)
    (hq : ∀ d, d ∈ q.free ∨ d ∈ q.used → (d ∈ p.free ∨ d ∈ p.used) ∧ q.closed d = p.closed d) :
    q.ListedOpen :=
  fun d hd => (hq d hd).2.trans (h d (hq d hd).1)

theorem Pool.ListedOpen.stamp (h : p.ListedOpen) (c : Conn) : (p.stamp c).ListedOpen := h

theorem Pool.ListedOpen.shut (h : p.ListedOpen) (hc : ¬ (c ∈ p.free ∨ c ∈ p.used)) :
    (p.shut c).ListedOpen := by
  refine h.of_listed fun d hd => ⟨hd, ?_⟩
  have hdc : d ≠ c := fun hdc => hc (hdc ▸ hd)
  simp [Pool.shut, hdc]

theorem Pool.ListedOpen.register (h : p.ListedOpen) (hc : p.closed c = false) :
    (p.register c).ListedOpen := by
  intro d hd
  simp only [Pool.register_free, Pool.register_used, Pool.register_closed, List.mem_append,
    List.mem_singleton] at hd ⊢
  rcases hd with (hd | rfl) | hd
  · exact h d (.inl hd)
  · exact hc
  · exact h d (.inr hd)

theorem Pool.ListedOpen.registerMade (h : p.ListedOpen) :
    (p.newConnection.register (.made p.made)).ListedOpen := by
  refine Pool.ListedOpen.register (fun d hd => ?_) (by simp [Pool.newConnection])
  by_cases hdm : d = .made p.made
  · subst hdm
    simp [Pool.newConnection]
  · simp only [Pool.newConnection, Function.update_of_ne hdm]
    exact h d hd

theorem Pool.ListedOpen.addConnection (h : p.ListedOpen) {conn : Option Conn}
    (hconn : ∀ c, conn = some c → p.closed c = false) (connect : Option PyError) :
    (p.addConnection cfg conn connect).1.ListedOpen := by
  rcases hr : p.addConnection cfg conn connect with ⟨p', _ | d⟩
  · rw [Pool.addConnection_error hr]
    exact h
  obtain ⟨-, ⟨rfl, rfl⟩ | ⟨rfl, rfl, rfl⟩⟩ := Pool.addConnection_ok hr
  · exact h.register (hconn d rfl)
  · exact h.registerMade

theorem Pool.ListedOpen.detach (h : p.ListedOpen) (c : Conn) : (p.detach c).ListedOpen := by
  refine h.of_listed fun d hd => ⟨?_, ?_⟩
  · rcases hd with hd | hd
    · exact .inl ((p.detach_free_sublist c).subset hd)
    · exact .inr ((p.detach_used_sublist c).subset hd)
  · unfold Pool.detach
    split_ifs <;> rfl

theorem Pool.ListedOpen.replaceConnection (hinv : p.Inv cfg) (h : p.ListedOpen) (c : Conn)
    (connect : Option PyError) : (p.replaceConnection cfg c connect).1.ListedOpen := by
  -- after `detach` the pool no longer lists `c`, so closing it keeps the others open
  have hshut : ((p.detach c).shut c).ListedOpen :=
    (h.detach c).shut fun hc => ((hinv.mem_detach c).mp hc).2 rfl
  unfold Pool.replaceConnection
  dsimp only
  split
  · exact h.detach c
  · exact hshut.addConnection (fun _ hc => by cases hc) connect

theorem Pool.ListedOpen.validate (hinv : p.Inv cfg) (h : p.ListedOpen) (c : Conn) (a : Answers) :
    (p.validate cfg c a).1.ListedOpen := by
  unfold Pool.validate
  split_ifs
  · exact h.replaceConnection hinv c a.connect
  · exact h

theorem Pool.ListedOpen.getConnection (hinv : p.Inv cfg) (h : p.ListedOpen) (a : Answers) :
    (p.getConnection cfg a).1.ListedOpen := by
  unfold Pool.getConnection
  cases hfree : p.free with
  | nil => exact h
  | cons c rest =>
    have hc : c ∈ p.free := by rw [hfree]; exact List.mem_cons_self
    obtain ⟨-, hmem⟩ := hinv.validate hc a
    have hq := h.validate hinv c a
    dsimp only
    rcases hv : p.validate cfg c a with ⟨q, _ | d⟩
    · rw [hv] at hq
      exact hq
    · rw [hv] at hq hmem
      -- the connection handed out moves from the free list to the used list
      refine hq.of_listed fun x hx => ⟨?_, rfl⟩
      simp only [List.mem_append, List.mem_singleton] at hx
      rcases hx with hx | hx | rfl
      · exact .inl (List.mem_of_mem_erase hx)
      · exact .inr hx
      · exact .inl (hmem x rfl)

theorem Pool.tryReset_fst (p : Pool) (c : Conn) (a : Answers) :
    (p.tryReset cfg c a).1 = p ∨
      (p.tryReset cfg c a).1 = (p.replaceConnection cfg c a.connect).1 := by
  unfold Pool.tryReset
  dsimp only
  by_cases hf : (if cfg.resetConnection then !a.resetOk else a.inTrans && !a.resetOk) = true
  · rw [if_pos hf]
    right
    rcases p.replaceConnection cfg c a.connect with ⟨q, _ | d⟩ <;> rfl
  · rw [if_neg hf]
    exact .inl rfl

theorem Pool.ListedOpen.tryReset (hinv : p.Inv cfg) (h : p.ListedOpen) (c : Conn) (a : Answers) :
    (p.tryReset cfg c a).1.ListedOpen := by
  rcases p.tryReset_fst c a with hq | hq <;> rw [hq]
  · exact h
  · exact h.replaceConnection hinv c a.connect

theorem Pool.ListedOpen.closeConnection (hinv : p.Inv cfg) (h : p.ListedOpen) (c : Conn)
    (a : Answers) : (p.closeConnection cfg c a).1.ListedOpen := by
  have hr := h.tryReset hinv c a
  unfold Pool.closeConnection
  rcases hreset : p.tryReset cfg c a with ⟨q, _ | e⟩
  · rw [hreset] at hr
    dsimp only
    split_ifs with hc
    · -- the connection given back moves from the used list to the free list
      refine Pool.ListedOpen.stamp ?_ c
      refine hr.of_listed fun x hx => ⟨?_, rfl⟩
      simp only [List.mem_append, List.mem_singleton] at hx
      rcases hx with (hx | rfl) | hx
      · exact .inl hx
      · exact .inr hc
      · exact .inr (List.mem_of_mem_erase hx)
    · exact hr
  · rw [hreset] at hr
    exact hr

theorem Pool.ListedOpen.step (hinv : p.Inv cfg) (h : p.ListedOpen) {op : PoolOp}
    (hadd : op.AddsOpen p) (a : Answers) : (p.step cfg op a).1.ListedOpen := by
  cases op with
  | addConnection conn =>
    refine h.addConnection (fun c hc => ?_) a.connect
    subst hc
    exact hadd
  | getConnection => exact h.getConnection hinv a
  | close c =>
    show (p.close cfg c a).1.ListedOpen
    unfold Pool.close
    split
    · exact h
    · split_ifs with hpooled
      · exact h.closeConnection hinv c a
      · -- a connection off the pool is not listed
        exact h.shut fun hc => hpooled ((hinv.pooled_iff c).mpr hc)

theorem Pool.ListedOpen.run (ops : List (PoolOp × Answers)) :
    ∀ p : Pool, p.Inv cfg → p.ListedOpen → p.RunAllowed cfg ops → p.RunAddsOpen cfg ops →
      (p.run cfg ops).ListedOpen := by
  induction ops with
  | nil => exact fun p _ h _ _ => h
  | cons x ops ih =>
    intro p hinv h hrun hadd
    obtain ⟨op, a⟩ := x
    exact ih _ (hinv.step hrun.1 a) (h.step hinv hadd.1 a) hrun.2 hadd.2

end ListedOpen

/-! ### The loop of `close()` -/

section Loop

variable {cfg : PoolConfig} {a : Answers}

theorem Pool.close_of_unpooled {p : Pool} {c : Conn} (hc : p.closed c = false)
    (hp : p.pooled c = false) : p.close cfg c a = (p.shut c, .ok ()) := by
  simp [Pool.close, Pool.checkClosed, hc, hp]

/-- Over distinct open connections the loop raises nothing, closes each for good and takes it off
the pool, and changes nothing else; by induction on the connections. -/
theorem Pool.closeAll_open :
    ∀ (cs : List Conn) (p : Pool), cs.Nodup → (∀ c ∈ cs, p.closed c = false) →
      (p.closeAll cfg a cs).2 = none ∧
        (∀ c, (p.closeAll cfg a cs).1.closed c = (decide (c ∈ cs) || p.closed c)) ∧
        ∀ c, (p.closeAll cfg a cs).1.pooled c = (!decide (c ∈ cs) && p.pooled c)
  | [], p, _, _ => ⟨rfl, fun _ => by simp [Pool.closeAll], fun _ => by simp [Pool.closeAll]⟩
  | c :: cs, p, hnd, hopen => by
    obtain ⟨hc, hnd'⟩ := List.nodup_cons.mp hnd
    have hstep : (p.unpool c).close cfg c a = ((p.unpool c).shut c, .ok ()) :=
      Pool.close_of_unpooled (hopen c List.mem_cons_self) (by simp)
    -- the rest is still open: closing `c` touches no other connection
    have hrest : ∀ d ∈ cs, ((p.unpool c).shut c).closed d = false := fun d hd => by
      have hdc : d ≠ c := fun hdc => hc (hdc ▸ hd)
      simp [hdc, hopen d (List.mem_cons_of_mem _ hd)]
    obtain ⟨herr, hclosed, hpooled⟩ := Pool.closeAll_open cs _ hnd' hrest
    simp only [Pool.closeAll, hstep]
    refine ⟨herr, fun d => ?_, fun d => ?_⟩
    · rw [hclosed d]
      by_cases hdc : d = c <;> simp [hdc]
    · rw [hpooled d]
      by_cases hdc : d = c <;> simp [hdc]

end Loop

/-- **`close()` closes every connection of the pool.** Over every run from the empty pool in
which `add_connection` is passed no connection, or an open connection the pool does not list,
`ConnectionPool.close()` raises nothing and removes the pool's name from
`mariadb._CONNECTION_POOLS`; it closes for good every connection on either list, those checked
out included, so that a client's later `close()` of one raises, leaves every other connection
as it was, and no connection points to the pool afterwards. -/
theorem pool_close_closes_all (cfg : PoolConfig) (ops : List (PoolOp × Answers))
    (hrun : Pool.empty.RunAllowed cfg ops) (hopen : Pool.empty.RunAddsOpen cfg ops)
    {pools : List String} (hname : cfg.name ∈ pools) (a a' : Answers) :
    ((Pool.empty.run cfg ops).closePool cfg pools a).2 = (pools.erase cfg.name, none) ∧
      (∀ c, ((Pool.empty.run cfg ops).closePool cfg pools a).1.closed c = true ↔
        c ∈ (Pool.empty.run cfg ops).free ∨ c ∈ (Pool.empty.run cfg ops).used ∨
          (Pool.empty.run cfg ops).closed c = true) ∧
      (∀ c, ((Pool.empty.run cfg ops).closePool cfg pools a).1.pooled c = false) ∧
      ∀ c ∈ (Pool.empty.run cfg ops).used,
        (((Pool.empty.run cfg ops).closePool cfg pools a).1.close cfg c a').2 =
          .error ⟨.programmingError, "Invalid connection or not connected"⟩ := by
  have hinv := Pool.Inv.run ops Pool.empty Pool.inv_empty hrun
  have hlisted := Pool.ListedOpen.run ops Pool.empty Pool.inv_empty
    (fun _ h => absurd h (by simp [Pool.empty])) hrun hopen
  generalize Pool.empty.run cfg ops = p at hinv hlisted
  -- the two lists hold distinct connections, all open
  have hnd : (p.free ++ p.used).Nodup :=
    List.nodup_append.mpr ⟨hinv.free_nodup, hinv.used_nodup, fun c hf d hu hcd =>
      hinv.disjoint c hf (hcd ▸ hu)⟩
  obtain ⟨herr, hclosed, hpooled⟩ := @Pool.closeAll_open cfg a (p.free ++ p.used) p
    hnd fun c hc => hlisted c (List.mem_append.mp hc)
  have hpool : p.closePool cfg pools a =
      ((p.closeAll cfg a (p.free ++ p.used)).1, pools.erase cfg.name, none) := by
    simp only [Pool.closePool, if_pos hname, herr]
  rw [hpool]
  refine ⟨rfl, fun c => ?_, fun c => ?_, fun c hc => ?_⟩
  · rw [hclosed c]
    simp [or_assoc]
  · rw [hpooled c]
    by_cases hc : c ∈ p.free ++ p.used
    · simp [hc]
    · have hoff : p.pooled c = false := by
        cases hpc : p.pooled c with
        | false => rfl
        | true => exact absurd (List.mem_append.mpr ((hinv.pooled_iff c).mp hpc)) hc
      simp [hoff]
  · have hcl : (p.closeAll cfg a (p.free ++ p.used)).1.closed c = true := by
      rw [hclosed c]
      simp [hc]
    simp [Pool.close, Pool.checkClosed, hcl]

/-- Two connections made, one checked out, then `close()`. -/
theorem pool_close_after_checkout :
    let cfg : PoolConfig := ⟨"pool", 2, true, true⟩
    let ok : Answers := ⟨none, false, true, false, true⟩
    let ops : List (PoolOp × Answers) :=
      [(.addConnection none, ok), (.addConnection none, ok), (.getConnection, ok)]
    Pool.empty.RunAllowed cfg ops ∧ Pool.empty.RunAddsOpen cfg ops ∧ cfg.name ∈ ["pool"] ∧
      ((Pool.empty.run cfg ops).closePool cfg ["pool"] ok).2 = (["pool"].erase cfg.name, none) ∧
      (∀ c, ((Pool.empty.run cfg ops).closePool cfg ["pool"] ok).1.closed c = true ↔
        c ∈ (Pool.empty.run cfg ops).free ∨ c ∈ (Pool.empty.run cfg ops).used ∨
          (Pool.empty.run cfg ops).closed c = true) ∧
      (∀ c, ((Pool.empty.run cfg ops).closePool cfg ["pool"] ok).1.pooled c = false) ∧
      ∀ c ∈ (Pool.empty.run cfg ops).used,
        (((Pool.empty.run cfg ops).closePool cfg ["pool"] ok).1.close cfg c ok).2 =
          .error ⟨.programmingError, "Invalid connection or not connected"⟩ := by
  intro cfg ok ops
  have hrun : Pool.empty.RunAllowed cfg ops := ⟨trivial, trivial, trivial, trivial⟩
  have hopen : Pool.empty.RunAddsOpen cfg ops := ⟨trivial, trivial, trivial, trivial⟩
  have hname : cfg.name ∈ ["pool"] := List.mem_singleton_self _
  exact ⟨hrun, hopen, hname, pool_close_closes_all cfg ops hrun hopen hname ok ok⟩

end MariadbConnector
