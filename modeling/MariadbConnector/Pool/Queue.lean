import MariadbConnector.Pool.Init

/-! The free list as a queue ordered by `__last_used`, and the rotation of rounds of
`get_connection()` and `close()`. -/

namespace MariadbConnector

/-- `_connections_free` is ordered by `__last_used`, and every stamp on it is older than the
clock. -/
structure Pool.Ordered (p : Pool) : Prop where
  sorted : (p.free.map p.lastUsed).Pairwise (· < ·)
  lt_clock : ∀ c ∈ p.free, p.lastUsed c < p.clock

/-- The free connection returned longest ago. -/
def Pool.LeastRecent (p : Pool) (c : Conn) : Prop :=
  c ∈ p.free ∧ ∀ d ∈ p.free, p.lastUsed c ≤ p.lastUsed d

/-! ### Stamps -/

@[simp] theorem Pool.stamp_lastUsed (p : Pool) (c : Conn) :
    (p.stamp c).lastUsed = Function.update p.lastUsed c p.clock := rfl

@[simp] theorem Pool.stamp_clock (p : Pool) (c : Conn) : (p.stamp c).clock = p.clock + 1 := rfl

@[simp] theorem Pool.detach_lastUsed (p : Pool) (c : Conn) : (p.detach c).lastUsed = p.lastUsed := by
  unfold Pool.detach
  split_ifs <;> rfl

@[simp] theorem Pool.detach_clock (p : Pool) (c : Conn) : (p.detach c).clock = p.clock := by
  unfold Pool.detach
  split_ifs <;> rfl

section Ordered

variable {cfg : PoolConfig} {p q : Pool} {c : Conn}

theorem Pool.Ordered.of_sublist (h : p.Ordered) (hs : q.free.Sublist p.free)
    (hl : q.lastUsed = p.lastUsed) (hk : q.clock = p.clock) : q.Ordered where
  sorted := by
    rw [hl]
    exact h.sorted.sublist (hs.map _)
  lt_clock := fun d hd => by
    rw [hl, hk]
    exact h.lt_clock d (hs.subset hd)

theorem Pool.Ordered.stamp_append (h : p.Ordered) (hc : c ∉ p.free) (hq : q.free = p.free ++ [c])
    (hl : q.lastUsed = p.lastUsed) (hk : q.clock = p.clock) : (q.stamp c).Ordered where
  sorted := by
    -- the stamps of the connections already there do not move
    have hmap : p.free.map (Function.update p.lastUsed c p.clock) = p.free.map p.lastUsed :=
      List.map_congr_left fun d hd => Function.update_of_ne (by rintro rfl; exact hc hd) _ _
    simp only [Pool.stamp_free, Pool.stamp_lastUsed, hq, hl, hk, List.map_append, hmap,
      List.map_singleton, Function.update_self, List.pairwise_append, List.pairwise_singleton,
      List.mem_singleton, true_and]
    refine ⟨h.sorted, fun x hx y hy => ?_⟩
    obtain ⟨d, hd, rfl⟩ := List.mem_map.mp hx
    rw [hy]
    exact h.lt_clock d hd
  lt_clock := by
    intro d hd
    simp only [Pool.stamp_free, hq, List.mem_append, List.mem_singleton] at hd
    simp only [Pool.stamp_lastUsed, Pool.stamp_clock, hl, hk]
    by_cases hdc : d = c
    · subst hdc
      simp
    · rw [Function.update_of_ne hdc]
      have := h.lt_clock d (hd.resolve_right hdc)
      omega

theorem Pool.Ordered.register (h : p.Ordered) (hc : c ∉ p.free) : (p.register c).Ordered :=
  h.stamp_append hc rfl rfl rfl

theorem Pool.Ordered.newConnection (h : p.Ordered) : p.newConnection.Ordered :=
  h.of_sublist (List.Sublist.refl _) rfl rfl

theorem Pool.Ordered.shut (h : p.Ordered) (c : Conn) : (p.shut c).Ordered :=
  h.of_sublist (List.Sublist.refl _) rfl rfl

theorem Pool.Ordered.detach (h : p.Ordered) (c : Conn) : (p.detach c).Ordered :=
  h.of_sublist (p.detach_free_sublist c) (p.detach_lastUsed c) (p.detach_clock c)

theorem Pool.Ordered.addConnection (h : p.Ordered) (hinv : p.Inv cfg) {conn : Option Conn}
    (hconn : ∀ c, conn = some c → c ∉ p.free) (connect : Option PyError) :
    (p.addConnection cfg conn connect).1.Ordered := by
  rcases hr : p.addConnection cfg conn connect with ⟨p', _ | d⟩
  · rw [Pool.addConnection_error hr]
    exact h
  obtain ⟨-, ⟨rfl, rfl⟩ | ⟨rfl, rfl, rfl⟩⟩ := Pool.addConnection_ok hr
  · exact h.register (hconn d rfl)
  · -- a connection the pool makes is on no list yet
    exact h.newConnection.register fun hf => Nat.lt_irrefl _ (hinv.made_lt _ (.inl hf))

theorem Pool.Ordered.replaceConnection (h : p.Ordered) (hinv : p.Inv cfg) (c : Conn)
    (connect : Option PyError) : (p.replaceConnection cfg c connect).1.Ordered := by
  unfold Pool.replaceConnection
  dsimp only
  split
  · exact h.detach c
  · exact ((h.detach c).shut c).addConnection ((hinv.detach c).shut c) (fun _ hc => by cases hc)
      connect

theorem Pool.Ordered.validate (h : p.Ordered) (hinv : p.Inv cfg) (c : Conn) (a : Answers) :
    (p.validate cfg c a).1.Ordered := by
  unfold Pool.validate
  split_ifs
  · exact h.replaceConnection hinv c a.connect
  · exact h

theorem Pool.Ordered.getConnection (h : p.Ordered) (hinv : p.Inv cfg) (a : Answers) :
    (p.getConnection cfg a).1.Ordered := by
  unfold Pool.getConnection
  cases hfree : p.free with
  | nil => exact h
  | cons c rest =>
    have hq := h.validate hinv c a
    dsimp only
    rcases hv : p.validate cfg c a with ⟨q, _ | d⟩
    · rw [hv] at hq
      exact hq
    · -- the connection handed out leaves the free list
      rw [hv] at hq
      exact hq.of_sublist List.erase_sublist rfl rfl

theorem Pool.Ordered.tryReset (h : p.Ordered) (hinv : p.Inv cfg) (c : Conn) (a : Answers) :
    (p.tryReset cfg c a).1.Ordered := by
  have hr := h.replaceConnection hinv c a.connect
  unfold Pool.tryReset
  dsimp only
  by_cases hf : (if cfg.resetConnection then !a.resetOk else a.inTrans && !a.resetOk) = true
  · rw [if_pos hf]
    rcases hrep : p.replaceConnection cfg c a.connect with ⟨q, _ | d⟩ <;>
      rw [hrep] at hr <;> exact hr
  · rw [if_neg hf]
    exact h

theorem Pool.Ordered.closeConnection (h : p.Ordered) (hinv : p.Inv cfg) (c : Conn) (a : Answers) :
    (p.closeConnection cfg c a).1.Ordered := by
  have hr := h.tryReset hinv c a
  have hrinv := hinv.tryReset c a
  unfold Pool.closeConnection
  rcases hreset : p.tryReset cfg c a with ⟨q, _ | e⟩
  · rw [hreset] at hr hrinv
    dsimp only
    split_ifs with hc
    · -- a used connection goes back behind the free ones
      exact hr.stamp_append (hrinv.used_not_free c hc) rfl rfl rfl
    · exact hr
  · rw [hreset] at hr
    exact hr

theorem Pool.Ordered.step (h : p.Ordered) (hinv : p.Inv cfg) {op : PoolOp} (hop : op.Allowed p)
    (a : Answers) : (p.step cfg op a).1.Ordered := by
  cases op with
  | addConnection conn =>
    refine h.addConnection hinv (fun c hc => ?_) a.connect
    subst hc
    exact hop.2.1
  | getConnection => exact h.getConnection hinv a
  | close c =>
    show (p.close cfg c a).1.Ordered
    unfold Pool.close
    split
    · exact h
    · split_ifs
      · exact h.closeConnection hinv c a
      · exact h.shut c

theorem Pool.Ordered.run (ops : List (PoolOp × Answers)) :
    ∀ p : Pool, p.Inv cfg → p.Ordered → p.RunAllowed cfg ops → (p.run cfg ops).Ordered := by
  induction ops with
  | nil => exact fun p _ h _ => h
  | cons x ops ih =>
    intro p hinv h hrun
    obtain ⟨op, a⟩ := x
    exact ih _ (hinv.step hrun.1 a) (h.step hinv hrun.1 a) hrun.2

/-- `get_connection` hands out the least recently returned free connection, or the connection it
has just made to replace that one. -/
theorem Pool.Ordered.getConnection_lru (h : p.Ordered) {a : Answers} {p' : Pool} {d : Conn}
    (hg : p.getConnection cfg a = (p', .ok d)) : p.LeastRecent d ∨ d = .made p.made := by
  unfold Pool.getConnection at hg
  cases hfree : p.free with
  | nil =>
    rw [hfree] at hg
    cases hg
  | cons c rest =>
    rw [hfree] at hg
    dsimp only at hg
    rcases hv : p.validate cfg c a with ⟨q, _ | d'⟩
    · rw [hv] at hg
      cases hg
    rw [hv] at hg
    cases hg
    unfold Pool.validate at hv
    split_ifs at hv
    · right
      rw [Pool.addConnection_none_ok (Pool.replaceConnection_ok hv), Pool.shut_made,
        Pool.detach_made]
    · cases hv
      refine .inl ⟨by rw [hfree]; exact List.mem_cons_self, fun e he => ?_⟩
      rw [hfree] at he
      -- the head carries the oldest stamp
      have hs := h.sorted
      rw [hfree, List.map_cons, List.pairwise_cons] at hs
      rcases List.mem_cons.mp he with rfl | he
      · exact le_refl _
      · exact (hs.1 _ (List.mem_map_of_mem he)).le

theorem Pool.ordered_empty : Pool.empty.Ordered :=
  ⟨List.Pairwise.nil, fun _ h => absurd h List.not_mem_nil⟩

end Ordered

/-! ### Rounds of `get_connection()` and `close()` -/

section Rounds

variable (cfg : PoolConfig)

/-- One round of `test_conpy245`: `conn = pool.get_connection()`, then `conn.close()`; `get` and
`put` are what the server and the clock answer during each call. -/
def Pool.round (p : Pool) (get put : Answers) : Pool :=
  match p.getConnection cfg get with
  | (p, .ok c) => (p.close cfg c put).1
  | (p, .error _) => p

/-- `N` rounds one after the other; `answers j` answers the `j`-th. -/
def Pool.rounds (answers : Nat → Answers × Answers) (p : Pool) : Nat → Pool
  | 0 => p
  | N + 1 => (p.rounds answers N).round cfg (answers N).1 (answers N).2

/-- A used connection that points to the pool goes back behind the free ones when its reset
succeeds. -/
theorem Pool.close_of_used (p : Pool) {c : Conn} {a : Answers} (hpooled : p.pooled c = true)
    (hopen : p.closed c = false) (hused : c ∈ p.used) (hreset : a.resetOk = true) :
    p.close cfg c a =
      (({ p with used := p.used.erase c, free := p.free ++ [c] } : Pool).stamp c, .ok ()) := by
  simp only [Pool.close, Pool.checkClosed, hopen, Bool.false_eq_true, if_false, hpooled, if_true,
    Pool.closeConnection, Pool.tryReset_of_resetOk hreset, hused]

/-- A round whose ping and reset succeed moves the head of the free list to its end and counts
one more use of it. -/
theorem Pool.round_cons {p : Pool} {c : Conn} {rest : List Conn} (hfree : p.free = c :: rest)
    (hused : p.used = []) (hpooled : p.pooled c = true) (hopen : p.closed c = false)
    {get put : Answers} (hping : get.pingOk = true) (hreset : put.resetOk = true) :
    (p.round cfg get put).free = rest ++ [c] ∧ (p.round cfg get put).used = [] ∧
      (p.round cfg get put).pooled = p.pooled ∧ (p.round cfg get put).closed = p.closed ∧
      (p.round cfg get put).uses = Function.update p.uses c (p.uses c + 1) := by
  have hv : p.validate cfg c get = (p, .ok c) := by
    simp [Pool.validate, hopen, hping]
  -- `get_connection` checks out the head
  obtain ⟨q, hget, hqf, hqu, hqp, hqc, hqn⟩ : ∃ q : Pool, p.getConnection cfg get = (q, .ok c) ∧
      q.free = rest ∧ q.used = [c] ∧ q.pooled = p.pooled ∧ q.closed = p.closed ∧
      q.uses = Function.update p.uses c (p.uses c + 1) :=
    ⟨{ p with
        uses := Function.update p.uses c (p.uses c + 1)
        used := [c]
        free := rest },
      by simp only [Pool.getConnection, hfree, hv, hused, List.nil_append, List.erase_cons_head],
      rfl, rfl, rfl, rfl, rfl⟩
  -- `close()` puts it back at the end
  rw [Pool.round, hget]
  dsimp only
  rw [Pool.close_of_used cfg q (by rw [hqp]; exact hpooled) (by rw [hqc]; exact hopen)
    (by rw [hqu]; exact List.mem_singleton_self c) hreset]
  simp [hqf, hqu, hqp, hqc, hqn]

/-- With every ping and reset succeeding, `N` rounds rotate the free list `L` by `N` places, and
each connection's `_used` count grows by the rounds in which it was at the head. -/
theorem Pool.rounds_rotate {answers : Nat → Answers × Answers} {p : Pool} {L : List Conn}
    (hL : L ≠ []) (hfree : p.free = L) (hused : p.used = [])
    (hpooled : ∀ c ∈ L, p.pooled c = true) (hopen : ∀ c ∈ L, p.closed c = false)
    (hans : ∀ j, (answers j).1.pingOk = true ∧ (answers j).2.resetOk = true) (N : Nat) :
    (p.rounds cfg answers N).free = L.rotate N ∧ (p.rounds cfg answers N).used = [] ∧
      (p.rounds cfg answers N).pooled = p.pooled ∧ (p.rounds cfg answers N).closed = p.closed ∧
      ∀ c, (p.rounds cfg answers N).uses c =
        p.uses c + Nat.count (fun j => L[j % L.length]? = some c) N := by
  induction N with
  | zero => simp [Pool.rounds, hfree, hused]
  | succ N ih =>
    obtain ⟨hf, hu, hp, hc, hn⟩ := ih
    have hk : N % L.length < L.length := Nat.mod_lt _ (List.length_pos_iff.mpr hL)
    -- after `N` rounds the head is the connection at place `N mod n`
    have hhead : L.rotate N =
        L[N % L.length] :: (L.drop (N % L.length + 1) ++ L.take (N % L.length)) := by
      rw [List.rotate_eq_drop_append_take_mod, List.drop_eq_getElem_cons hk, List.cons_append]
    have hmem : L[N % L.length] ∈ L := List.getElem_mem hk
    obtain ⟨hf', hu', hp', hc', hn'⟩ := Pool.round_cons cfg (hf.trans hhead) hu
      (by rw [hp]; exact hpooled _ hmem) (by rw [hc]; exact hopen _ hmem) (hans N).1 (hans N).2
    refine ⟨?_, hu', hp'.trans hp, hc'.trans hc, fun c => ?_⟩
    · rw [Pool.rounds, hf', ← List.rotate_rotate, hhead, List.rotate_cons_succ, List.rotate_zero]
    · rw [Pool.rounds, hn', Nat.count_succ, List.getElem?_eq_getElem hk]
      by_cases hcN : L[N % L.length] = c
      · subst hcN
        simp only [Function.update_self, hn, if_true]
        omega
      · simp [Function.update_of_ne (Ne.symm hcN), hn, hcN]

/-- In a filled pool of `n` connections, `N` rounds hand out the `i`-th one `N / n` times, and
once more when `i < N % n`. -/
theorem Pool.Filled.rounds_uses {answers : Nat → Answers × Answers} {p : Pool} {n : Nat}
    (hp : p.Filled n) (hn : 0 < n)
    (hans : ∀ j, (answers j).1.pingOk = true ∧ (answers j).2.resetOk = true) (N : Nat) {i : Nat}
    (hi : i < n) :
    (p.rounds cfg answers N).uses (.made i) = N / n + if i < N % n then 1 else 0 := by
  obtain ⟨hfree, hused, -, hpooled, hopen, huses⟩ := hp
  have hL : (List.range n).map Conn.made ≠ [] := by
    simp only [ne_eq, List.map_eq_nil_iff, List.range_eq_nil]
    omega
  obtain ⟨-, -, -, -, hcount⟩ := Pool.rounds_rotate cfg hL hfree hused
    (fun c hc => hpooled c (hfree ▸ hc)) (fun c _ => hopen c) hans N
  -- the connection at place `j mod n` is the `(j mod n)`-th one made
  have hpred : ∀ j, ((List.range n).map Conn.made)[j % ((List.range n).map Conn.made).length]? =
      some (Conn.made i) ↔ j ≡ i [MOD n] := by
    intro j
    simp [Nat.ModEq, Nat.mod_eq_of_lt hi, Nat.mod_lt j hn]
  rw [hcount, huses, Nat.zero_add, Nat.count_eq_card_filter_range]
  simp only [hpred]
  rw [← Nat.count_eq_card_filter_range, Nat.count_modEq_card N hn i, Nat.mod_eq_of_lt hi]

end Rounds

theorem div_add_ite_eq_floor_or_ceil (b r v : Nat) (hr : 0 < r) :
    b / r + (if v < b % r then 1 else 0) = b / r ∨
      b / r + (if v < b % r then 1 else 0) = (b + r - 1) / r := by
  have hceil : (b + r - 1) / r = b / r + if r ≤ b % r + (r - 1) then 1 else 0 := by
    rw [show b + r - 1 = b + (r - 1) by omega, Nat.add_div hr,
      Nat.div_eq_of_lt (by omega : r - 1 < r), Nat.mod_eq_of_lt (by omega : r - 1 < r),
      Nat.add_zero]
  by_cases hv : v < b % r
  · right
    rw [hceil, if_pos hv, if_pos (by omega)]
  · left
    rw [if_neg hv, Nat.add_zero]

/-- **Rounds are fair and the free list is a queue.** With every ping and reset succeeding, `N`
rounds of `get_connection()` and `close()` on a pool of `n` connections hand out each one
`⌊N / n⌋` or `⌈N / n⌉` times, as its `_used` counter records. Over every allowed run,
`_connections_free` stays ordered by `__last_used`, and `get_connection` hands out the least
recently returned free connection or, when that one fails its check, the replacement it made. -/
theorem pool_fair_lru :
    (∀ (cfg : PoolConfig) (pools : List String) (connects : Nat → Option PyError)
        (fillAnswers : Nat → Answers) (answers : Nat → Answers × Answers),
      cfg.name ∉ pools → 0 < cfg.size → cfg.size ≤ maxPoolSize → cfg.configured = true →
      (∀ i < cfg.size, connects i = none) →
      (∀ j, (answers j).1.pingOk = true ∧ (answers j).2.resetOk = true) →
      ∀ (N i : Nat), i < cfg.size →
        ((Pool.init cfg pools connects fillAnswers).1.rounds cfg answers N).uses (.made i) =
            N / cfg.size ∨
          ((Pool.init cfg pools connects fillAnswers).1.rounds cfg answers N).uses (.made i) =
            (N + cfg.size - 1) / cfg.size) ∧
    ∀ (cfg : PoolConfig) (ops : List (PoolOp × Answers)), Pool.empty.RunAllowed cfg ops →
      (Pool.empty.run cfg ops).Ordered ∧
        ∀ a p' c, (Pool.empty.run cfg ops).getConnection cfg a = (p', .ok c) →
          (Pool.empty.run cfg ops).LeastRecent c ∨ c = .made (Pool.empty.run cfg ops).made := by
  refine ⟨?_, fun cfg ops hrun => ?_⟩
  · intro cfg pools connects fillAnswers answers hname hpos hsize hconf hok hans N i hi
    obtain ⟨q, hq, hinit⟩ := Pool.init_ok pools fillAnswers hname hpos hsize hconf hok
    rw [hinit, hq.rounds_uses cfg hpos hans N hi]
    exact div_add_ite_eq_floor_or_ceil N cfg.size i hpos
  · have hord := Pool.Ordered.run ops Pool.empty Pool.inv_empty Pool.ordered_empty hrun
    exact ⟨hord, fun _ _ _ hg => hord.getConnection_lru hg⟩

/-- Three rounds on a pool of two: the first connection is handed out twice. -/
theorem pool_fair_three_rounds :
    ((Pool.init ⟨"pool", 2, true, true⟩ [] (fun _ => none)
        (fun _ => ⟨none, false, true, false, true⟩)).1.rounds ⟨"pool", 2, true, true⟩
        (fun _ => (⟨none, false, true, false, true⟩, ⟨none, false, true, false, true⟩)) 3).uses
        (.made 0) = 3 / 2 ∨
      ((Pool.init ⟨"pool", 2, true, true⟩ [] (fun _ => none)
        (fun _ => ⟨none, false, true, false, true⟩)).1.rounds ⟨"pool", 2, true, true⟩
        (fun _ => (⟨none, false, true, false, true⟩, ⟨none, false, true, false, true⟩)) 3).uses
        (.made 0) = (3 + 2 - 1) / 2 :=
  pool_fair_lru.1 _ _ _ _ _ (by decide) (by decide) (by decide) rfl (fun _ _ => rfl)
    (fun _ => ⟨rfl, rfl⟩) 3 0 (by decide)

/-- The head of the free list is stale and its ping fails: `get_connection` hands out the
replacement it has just made, while the other connection, returned before it, stays free. -/
theorem pool_lru_ping_failure :
    ((Pool.empty.run ⟨"pool", 2, true, true⟩
        [(.addConnection none, ⟨none, false, true, false, true⟩),
          (.addConnection none, ⟨none, false, true, false, true⟩)]).getConnection
        ⟨"pool", 2, true, true⟩ ⟨none, true, false, false, true⟩).2 = .ok (.made 2) ∧
      Conn.made 1 ∈ ((Pool.empty.run ⟨"pool", 2, true, true⟩
        [(.addConnection none, ⟨none, false, true, false, true⟩),
          (.addConnection none, ⟨none, false, true, false, true⟩)]).getConnection
        ⟨"pool", 2, true, true⟩ ⟨none, true, false, false, true⟩).1.free := by
  decide

end MariadbConnector
