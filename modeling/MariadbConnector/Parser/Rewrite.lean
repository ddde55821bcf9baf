import MariadbConnector.Lib.Splice
import MariadbConnector.Parser.Simulation

/-! What the in-place rewrite of `MrdbParser_parse` does to a statement: copied bytes, and each
placeholder written as one `?`. -/
namespace MariadbConnector

open CString Splice

/-- A piece of the input as the parser rewrites it. -/
inductive Piece
  | byte (b : UInt8)
  | qmark
  /-- `%d` when the flag is set, else `%s`. -/
  | format (d : Bool)
  /-- `%(key)s`. -/
  | pyformat (key : List UInt8)
  deriving DecidableEq, Repr

namespace Piece

/-- The input bytes of a piece. -/
def src : Piece → List UInt8
  | .byte b => [b]
  | .qmark => [63]
  | .format d => [37, if d then 100 else 115]
  | .pyformat key => 37 :: 40 :: key ++ [41, 115]

/-- The bytes a piece is rewritten to. -/
def dst : Piece → List UInt8
  | .byte b => [b]
  | _ => [63]

def style : Piece → Paramstyle
  | .byte _ => .none
  | .qmark => .qmark
  | .format _ => .format
  | .pyformat _ => .pyformat

def isParam (pc : Piece) : Bool := pc.style != .none

def key? : Piece → Option (List UInt8)
  | .pyformat key => some key
  | _ => none

/-- The bytes the rewrite drops for a piece. -/
def removed (pc : Piece) : Nat := pc.src.length - pc.dst.length

theorem dst_length_le (pc : Piece) : pc.dst.length ≤ pc.src.length := by
  cases pc <;> simp [src, dst]

theorem dst_of_isParam {pc : Piece} (h : pc.isParam = true) : pc.dst = [63] := by
  cases pc <;> simp_all [isParam, style, dst]

@[simp] theorem source_map_byte (l : List UInt8) : source src (l.map byte) = l := by
  induction l with
  | nil => rfl
  | cons b l ih => simpa [source, src] using ih

@[simp] theorem target_map_byte (l : List UInt8) : target dst (l.map byte) = l := by
  induction l with
  | nil => rfl
  | cons b l ih => simpa [target, dst] using ih

@[simp] theorem marks_map_byte (l : List UInt8) (base : Nat) :
    marks dst isParam (l.map byte) base = [] := by
  induction l generalizing base with
  | nil => rfl
  | cons b l ih => simp [marks, isParam, style, ih]

@[simp] theorem filterMap_key_map_byte (l : List UInt8) : (l.map byte).filterMap key? = [] := by
  induction l with
  | nil => rfl
  | cons b l ih => simp [key?]

theorem length_filterMap_key {ps : List Piece}
    (hs : ∀ pc ∈ ps, pc.isParam = true → pc.style = .pyformat) :
    (ps.filterMap key?).length = (ps.filter isParam).length := by
  induction ps with
  | nil => rfl
  | cons pc ps ih =>
    have ih' := ih (fun q hq => hs q (List.mem_cons_of_mem _ hq))
    cases pc with
    | byte b =>
      rw [List.filterMap_cons_none rfl, List.filter_cons_of_neg (by simp [isParam, style])]
      exact ih'
    | qmark => simp [isParam, style] at hs
    | format d => simp [isParam, style] at hs
    | pyformat key =>
      rw [List.filterMap_cons_some (show key? (pyformat key) = some key from rfl),
        List.filter_cons_of_pos (by simp [isParam, style])]
      simp [ih']

end Piece

/-- The state a pass ends in, whether the loop goes on with the test or with `goto cont`. -/
def Next.state? {σ : Type} : Next σ → Option σ
  | .next s => some s
  | .cont s => some s
  | .fail _ => none

/-- The placeholder bookkeeping of a parser record. -/
structure Recorded where
  paramList : List Nat
  keys : List (List UInt8)
  paramCount : Nat
  paramstyle : Paramstyle

def MrdbParser.recorded (p : MrdbParser) : Recorded :=
  ⟨p.paramList, p.keys, p.paramCount, p.paramstyle⟩

namespace Scan

variable {t t₁ t₂ t' : Scan} {n m : Nat}

/-- `t'` is `t` with the next `n` input bytes copied to the output and no placeholder
recorded. -/
structure Copies (t t' : Scan) (n : Nat) : Prop where
  out : t'.out = t.out ++ t.rest.take n
  rest : t'.rest = t.rest.drop n
  recorded : t'.p.recorded = t.p.recorded

/-- `t'` is `t` with the placeholder `pc` read, a `?` written for it, and its offset, key and
style recorded. -/
structure Places (t t' : Scan) (pc : Piece) : Prop where
  param : pc.isParam = true
  rest : t.rest = pc.src ++ t'.rest
  out : t'.out = t.out ++ [63]
  recorded : t'.p.recorded =
    ⟨t.p.paramList ++ [t.out.length], t.p.keys ++ pc.key?.toList, t.p.paramCount + 1, pc.style⟩
  agrees : t.p.paramstyle.clashes pc.style = false

/-- All one pass of the loop body can do to the text and the bookkeeping: copy some bytes,
at least one where no placeholder follows, then at most one placeholder. -/
def Step (t t' : Scan) : Prop :=
  (∃ n, 0 < n ∧ Copies t t' n) ∨ ∃ t₁ n pc, Copies t t₁ n ∧ Places t₁ t' pc

theorem Copies.refl (t : Scan) : Copies t t 0 := ⟨by simp, by simp, rfl⟩

theorem Copies.of_eq (h : Copies t t₁ n) (ho : t₂.out = t₁.out) (hr : t₂.rest = t₁.rest)
    (hp : t₂.p.recorded = t₁.p.recorded) : Copies t t₂ n :=
  ⟨ho.trans h.out, hr.trans h.rest, hp.trans h.recorded⟩

theorem Copies.advance (h : Copies t t₁ n) (m : Nat) : Copies t (t₁.advance m) (n + m) where
  out := by simp [Scan.advance, h.out, h.rest, List.take_add]
  rest := by simp [Scan.advance, h.rest, List.drop_drop]
  recorded := h.recorded

theorem Copies.trans (h₁ : Copies t t₁ n) (h₂ : Copies t₁ t₂ m) : Copies t t₂ (n + m) :=
  (h₁.advance m).of_eq (h₂.out) (h₂.rest) h₂.recorded

theorem Copies.openComment (h : Copies t t₁ n) : Copies t t₁.openComment n :=
  h.of_eq rfl rfl rfl

theorem Copies.readVersion (h : Copies t t₁ n) (k : Nat) :
    Copies t (t₁.readVersion k).2 (n + (k + (strtol (t₁.rest.drop k)).2)) :=
  h.advance _

theorem Copies.bottom (h : Copies t t₁ n) : Copies t t₁.bottom (n + 1) :=
  (h.advance 1).of_eq rfl rfl rfl

theorem Copies.detectCommand (h : Copies t t₁ n) : Copies t t₁.detectCommand n := by
  unfold Scan.detectCommand
  split
  · split
    · exact h.of_eq rfl rfl rfl
    · exact h.of_eq rfl rfl rfl
  · exact h

theorem copies_mariadbComment (t : Scan) : ∃ n, Copies t t.mariadbComment n := by
  unfold Scan.mariadbComment
  dsimp only
  split_ifs
  · exact ⟨_, (Copies.refl t).advance 2⟩
  · exact ⟨_, ((Copies.refl t).advance 2).readVersion 0⟩
  · exact ⟨_, (((Copies.refl t).advance 2).readVersion 0).openComment⟩
  · exact ⟨_, ((Copies.refl t).advance 2).openComment⟩
  · exact ⟨_, (Copies.refl t).openComment⟩

theorem copies_blockComment (t : Scan) : ∃ n, Copies t t.blockComment n := by
  unfold Scan.blockComment
  dsimp only
  split_ifs
  · exact ⟨_, (Copies.refl t).advance 2⟩
  · exact ⟨_, ((Copies.refl t).readVersion 1).openComment⟩
  · exact ⟨_, (Copies.refl t).readVersion 1⟩
  · exact copies_mariadbComment t
  · exact copies_mariadbComment t

theorem copies_lineComment (t : Scan) : ∃ n, Copies t t.lineComment n := by
  -- an optional `#`, then an optional `-- ` after it
  obtain ⟨n, h⟩ : ∃ n, Copies t
      (if t.ch 0 = 35 then { t.advance 1 with p.commentEol := true } else t) n := by
    split_ifs
    · exact ⟨_, ((Copies.refl t).advance 1).of_eq rfl rfl rfl⟩
    · exact ⟨_, Copies.refl t⟩
  unfold Scan.lineComment
  generalize (if t.ch 0 = 35 then { t.advance 1 with p.commentEol := true } else t) = t₁ at h ⊢
  dsimp only
  split_ifs
  · exact ⟨_, (h.advance 3).of_eq rfl rfl rfl⟩
  · exact ⟨_, h⟩

theorem copies_of_batchKeywords (h : t.batchKeywords.state? = some t') :
    ∃ n, 0 < n ∧ Copies t t' n := by
  obtain ⟨n, h₁⟩ : ∃ n, Copies t
      (if (!t.p.isInsert && keywordAt t.rest insertKeyword &&
          (t.lastchar == 0 || isWhitespace t.lastchar || t.lastchar == 47)) = true then
        { t.advance 7 with p.isInsert := true } else t) n := by
    split_ifs
    · exact ⟨_, ((Copies.refl t).advance 7).of_eq rfl rfl rfl⟩
    · exact ⟨_, Copies.refl t⟩
  unfold Scan.batchKeywords at h
  generalize (if (!t.p.isInsert && keywordAt t.rest insertKeyword &&
      (t.lastchar == 0 || isWhitespace t.lastchar || t.lastchar == 47)) = true then
    { t.advance 7 with p.isInsert := true } else t) = t₁ at h h₁
  dsimp only at h
  split_ifs at h <;> cases h
  · exact ⟨_, by omega, (h₁.advance 7).of_eq rfl rfl rfl⟩
  · exact ⟨_, by omega, h₁.bottom⟩

theorem places_qmark (h : t.ch 0 = 63) (hc : t.p.paramstyle.clashes .qmark = false) :
    Places t { t.advance 1 with
      p.paramstyle := .qmark
      p.paramCount := t.p.paramCount + 1
      p.paramList := t.p.paramList ++ [t.out.length] } .qmark := by
  have hr := (drop_eq_cons_of_ch_ne_zero (t := t) (k := 0) (by rw [h]; decide)).2
  rw [h, List.drop_zero] at hr
  refine ⟨rfl, ?_, ?_, by simp [MrdbParser.recorded, Piece.key?, Piece.style, Scan.advance], hc⟩
  · simp only [Scan.advance, Piece.src]
    rw [hr]
    rfl
  · simp only [Scan.advance]
    rw [hr]
    rfl

theorem places_format (h0 : t.ch 0 = 37) (h1 : t.ch 1 = 115 ∨ t.ch 1 = 100)
    (hc : t.p.paramstyle.clashes .format = false) :
    Places t t.formatPlaceholder (.format (t.ch 1 == 100)) := by
  have hr := rest_eq_of_ch_one (t := t) (by rcases h1 with h | h <;> rw [h] <;> decide)
  refine ⟨rfl, ?_, rfl, ?_, hc⟩
  · simp only [formatPlaceholder, replace, Piece.src]
    nth_rewrite 1 [hr]
    rw [h0]
    rcases h1 with h | h <;> simp [h]
  · simp [MrdbParser.recorded, formatPlaceholder, replace, Piece.key?, Piece.style]

/-- `%(key)s`: the `)s` that `strstr` finds closes the key, and the `(` before the key keeps it
off offset 0. -/
theorem places_pyformat {j : Nat} (h0 : t.ch 0 = 37) (h1 : t.ch 1 = 40)
    (hj : strstr [41, 115] (t.rest.drop 1) = some j)
    (hc : t.p.paramstyle.clashes .pyformat = false) :
    Places t (t.pyformatPlaceholder j) (.pyformat ((t.rest.drop 2).take (j - 1))) := by
  obtain ⟨hlen, hsub⟩ := strstr_spec (by simp) hj
  have hr := rest_eq_of_ch_one (t := t) (by rw [h1]; decide)
  have hd1 := (drop_eq_cons_of_ch_ne_zero (t := t) (k := 1) (by rw [h1]; decide)).2
  rw [h0, h1] at hr
  rw [h1] at hd1
  obtain ⟨k, rfl⟩ : ∃ k, j = k + 1 := by
    rcases j with _ | k
    · simp [hd1] at hsub
    · exact ⟨k, rfl⟩
  rw [hd1, List.drop_succ_cons] at hsub
  simp only [List.length_cons, List.length_nil] at hsub
  have hsplit : t.rest.drop 2 =
      (t.rest.drop 2).take k ++ [41, 115] ++ t.rest.drop (k + 4) := by
    calc t.rest.drop 2
        = (t.rest.drop 2).take k ++
            (((t.rest.drop 2).drop k).take 2 ++ ((t.rest.drop 2).drop k).drop 2) := by
          rw [List.take_append_drop, List.take_append_drop]
      _ = (t.rest.drop 2).take k ++ [41, 115] ++ t.rest.drop (k + 4) := by
          rw [hsub, List.drop_drop, List.drop_drop, List.append_assoc]
          congr 3
          omega
  refine ⟨rfl, ?_, rfl, ?_, hc⟩
  · simp only [pyformatPlaceholder, replace, Piece.src]
    nth_rewrite 1 [hr]
    nth_rewrite 1 [hsplit]
    simp
  · simp [MrdbParser.recorded, pyformatPlaceholder, replace, Piece.key?, Piece.style]

theorem step_of_afterComments {b : Bool} (h : (t.afterComments b).state? = some t') :
    (∃ n, 0 < n ∧ Copies t t' n) ∨ ∃ pc, Places t t' pc := by
  have hkw : (if b then t.batchKeywords else .next t.detectCommand.bottom).state? = some t' →
      ∃ n, 0 < n ∧ Copies t t' n := by
    cases b
    · intro h
      cases h
      exact ⟨_, by omega, (Copies.refl t).detectCommand.bottom⟩
    · exact copies_of_batchKeywords
  unfold Scan.afterComments at h
  by_cases heol : t.p.commentEol = true
  · rw [if_pos heol] at h
    left
    split_ifs at h <;> cases h
    · exact ⟨_, by omega, ((Copies.refl t).advance 1).of_eq rfl rfl rfl⟩
    · exact ⟨_, by omega, (Copies.refl t).advance 1⟩
  rw [if_neg heol] at h
  by_cases hq : t.ch 0 = 63
  · rw [if_pos hq] at h
    split_ifs at h with hc
    · cases h
    · obtain rfl := Option.some.inj h
      exact .inr ⟨_, places_qmark hq (by simpa using hc)⟩
  rw [if_neg hq] at h
  dsimp only at h
  by_cases hp : t.ch 0 = 37 ∧ t.lastchar ≠ 92
  · rw [if_pos hp] at h
    by_cases hsd : t.ch 1 = 115 ∨ t.ch 1 = 100
    · rw [if_pos hsd] at h
      split_ifs at h with hc
      · cases h
      · obtain rfl := Option.some.inj h
        exact .inr ⟨_, places_format hp.1 hsd (by simpa using hc)⟩
    rw [if_neg hsd] at h
    by_cases h40 : t.ch 1 = 40
    · rw [if_pos h40] at h
      cases hj : strstr [41, 115] (t.rest.drop 1) with
      | none =>
        rw [hj] at h
        exact .inl (hkw h)
      | some j =>
        rw [hj] at h
        dsimp only at h
        split_ifs at h with hc
        · cases h
        · obtain rfl := Option.some.inj h
          exact .inr ⟨_, places_pyformat hp.1 h40 hj (by simpa using hc)⟩
    · rw [if_neg h40] at h
      exact .inl (hkw h)
  · rw [if_neg hp] at h
    exact .inl (hkw h)

theorem step_of_body {b : Bool} (h : (t.body b).state? = some t') : Step t t' := by
  unfold Scan.body at h
  cases hl : literalIndex (t.ch 0) with
  | some i =>
    rw [hl] at h
    cases h
    exact .inl ⟨_, by omega, ((Copies.refl t).advance 1).of_eq rfl rfl rfl⟩
  | none =>
    rw [hl] at h
    dsimp only at h
    split_ifs at h
    · cases h
      exact .inl ⟨_, by omega, (Copies.refl t).advance 1⟩
    · cases h
      exact .inl ⟨_, by omega, ((Copies.refl t).advance 2).of_eq rfl rfl rfl⟩
    · cases h
      exact .inl ⟨_, by omega, (Copies.refl t).advance 1⟩
    · cases h
      obtain ⟨n, hc⟩ := copies_blockComment (t.advance 2)
      exact .inl ⟨_, by omega, ((Copies.refl t).advance 2).trans hc⟩
    · -- `#` or `-- ` first, then the tail of the body
      obtain ⟨n, hc⟩ := copies_lineComment t
      rcases step_of_afterComments h with ⟨m, hm0, hm⟩ | ⟨pc, hpc⟩
      · exact .inl ⟨_, by omega, hc.trans hm⟩
      · exact .inr ⟨_, _, _, hc, hpc⟩

end Scan

/-- The scan so far read `source ps` of the input and wrote `target ps`, and the parser
recorded exactly the placeholders among `ps`, all in the recorded style. -/
structure Rewrites (input : List UInt8) (t : Scan) (ps : List Piece) : Prop where
  read : source Piece.src ps ++ t.rest = input
  written : target Piece.dst ps = t.out
  offsets : t.p.paramList = marks Piece.dst Piece.isParam ps 0
  keys : t.p.keys = ps.filterMap Piece.key?
  count : t.p.paramCount = t.p.paramList.length
  style : ∀ pc ∈ ps, pc.isParam = true → pc.style = t.p.paramstyle

namespace Rewrites

variable {input : List UInt8} {t t' : Scan} {ps : List Piece}

theorem copies (h : Rewrites input t ps) {n : Nat} (hc : t.Copies t' n) :
    Rewrites input t' (ps ++ (t.rest.take n).map .byte) := by
  have hr := hc.recorded
  simp only [MrdbParser.recorded, Recorded.mk.injEq] at hr
  obtain ⟨hl, hk, hn, hs⟩ := hr
  refine ⟨?_, ?_, ?_, ?_, ?_, ?_⟩
  · rw [source_append, Piece.source_map_byte, hc.rest, List.append_assoc, List.take_append_drop,
      h.read]
  · rw [target_append, Piece.target_map_byte, hc.out, h.written]
  · rw [hl, h.offsets, marks_append, Piece.marks_map_byte, List.append_nil]
  · rw [hk, h.keys, List.filterMap_append, Piece.filterMap_key_map_byte, List.append_nil]
  · rw [hn, hl, h.count]
  · intro pc hpc hparam
    rw [hs]
    rcases List.mem_append.mp hpc with hpc | hpc
    · exact h.style pc hpc hparam
    · obtain ⟨b, -, rfl⟩ := List.mem_map.mp hpc
      simp [Piece.isParam, Piece.style] at hparam

theorem places (h : Rewrites input t ps) {pc : Piece} (hp : t.Places t' pc) :
    Rewrites input t' (ps ++ [pc]) := by
  have hr := hp.recorded
  simp only [MrdbParser.recorded, Recorded.mk.injEq] at hr
  obtain ⟨hl, hk, hn, hs⟩ := hr
  refine ⟨?_, ?_, ?_, ?_, ?_, ?_⟩
  · rw [source_append, source_singleton, List.append_assoc, ← hp.rest, h.read]
  · rw [target_append, target_singleton, Piece.dst_of_isParam hp.param, hp.out, h.written]
  · rw [hl, h.offsets, marks_append, h.written]
    simp [marks, hp.param]
  · rw [hk, h.keys, List.filterMap_append]
    cases pc <;> simp [Piece.key?]
  · rw [hn, hl, h.count, List.length_append, List.length_singleton]
  · intro q hq hparam
    rw [hs]
    rcases List.mem_append.mp hq with hq | hq
    · -- the style before was unset or already this one
      have hq' := h.style q hq hparam
      have hagree := hp.agrees
      simp only [Paramstyle.clashes, Bool.and_eq_false_iff, bne_eq_false_iff_eq] at hagree
      rcases hagree with hnone | hsame
      · rw [hnone] at hq'
        simp [Piece.isParam, hq'] at hparam
      · rw [hq', hsame]
    · rw [List.mem_singleton.mp hq]

theorem step (h : Rewrites input t ps) (hs : Scan.Step t t') : ∃ ps', Rewrites input t' ps' := by
  rcases hs with ⟨n, -, hc⟩ | ⟨t₁, n, pc, hc, hp⟩
  · exact ⟨_, h.copies hc⟩
  · exact ⟨_, (h.copies hc).places hp⟩

end Rewrites

theorem rewrites_init {sv : Nat} {input : List UInt8} {p : MrdbParser}
    (hp : MrdbParser.init sv input = some p) :
    Rewrites input { p, out := [], rest := input, lastchar := 0 } [] := by
  unfold MrdbParser.init at hp
  split_ifs at hp
  cases hp
  exact ⟨rfl, rfl, rfl, rfl, rfl, by simp⟩

theorem scanLoop_rewrites {input : List UInt8} (b : Bool) (n : Nat) {x : Next Scan}
    (hx : ∀ t ∈ x.state?, ∃ ps, Rewrites input t ps) {t' : Scan}
    (h : scanLoop b n x = some (.ok t')) : ∃ ps, Rewrites input t' ps := by
  induction n generalizing x with
  | zero => cases x <;> simp [scanLoop] at h
  | succ n ih =>
    cases x with
    | next t =>
      obtain ⟨ps, hps⟩ := hx t rfl
      simp only [scanLoop] at h
      split_ifs at h
      · exact ih (fun t₁ ht₁ => hps.step (Scan.step_of_body ht₁)) h
      · cases h
        exact ⟨ps, hps⟩
    | cont t =>
      obtain ⟨ps, hps⟩ := hx t rfl
      exact ih (fun t₁ ht₁ => hps.step (Scan.step_of_body ht₁)) h
    | fail msg => simp [scanLoop] at h

/-! ### The loop finishes within its fuel -/

namespace Scan

variable {t t' : Scan}

theorem Step.shrinks (hs : Step t t') : t'.rest.length < t.rest.length ∨ t'.rest = [] := by
  rcases hs with ⟨n, hn, hc⟩ | ⟨t₁, n, pc, hc, hp⟩
  · rw [hc.rest]
    rcases Nat.lt_or_ge n t.rest.length with hlt | hge
    · left
      rw [List.length_drop]
      omega
    · exact .inr (List.drop_eq_nil_of_le hge)
  · have h1 : t₁.rest.length ≤ t.rest.length := by
      rw [hc.rest, List.length_drop]
      omega
    have h2 : t₁.rest.length = pc.src.length + t'.rest.length := by
      rw [hp.rest, List.length_append]
    have h3 : 0 < pc.src.length := by
      cases pc <;> simp [Piece.src]
    exact .inl (by omega)

theorem batchKeywords_ne_cont : t.batchKeywords ≠ .cont t' := by
  unfold Scan.batchKeywords
  dsimp only
  split_ifs <;> simp

theorem afterComments_ne_cont {b : Bool} : t.afterComments b ≠ .cont t' := by
  have hb : t.batchKeywords ≠ .cont t' := batchKeywords_ne_cont
  unfold Scan.afterComments
  dsimp only
  split_ifs <;> (try split) <;> simp_all

theorem rest_ne_nil_of_body_cont {b : Bool} (h : t.body b = .cont t') : t.rest ≠ [] := by
  intro hr
  have h0 : t.ch 0 = 0 := by simp [Scan.ch, hr]
  have hl : literalIndex (t.ch 0) = none := by rw [h0]; decide
  unfold Scan.body at h
  rw [hl] at h
  dsimp only at h
  split_ifs at h
  · exact afterComments_ne_cont h

end Scan

/-- The passes the loop still makes from `x`: one for each byte left, one more after a
`goto cont`, and the last test. -/
def passesLeft : Next Scan → Nat
  | .next t => if t.rest = [] then 1 else t.rest.length + 2
  | .cont t => t.rest.length + 2
  | .fail _ => 0

theorem passesLeft_body (b : Bool) (t : Scan) :
    passesLeft (t.body b) ≤ if t.rest = [] then 1 else t.rest.length + 1 := by
  cases hx : t.body b with
  | fail m => exact Nat.zero_le _
  | next t' =>
    have hstep : Scan.Step t t' := Scan.step_of_body (b := b) (by rw [hx]; rfl)
    have hs := hstep.shrinks
    simp only [passesLeft]
    split_ifs <;> simp_all
  | cont t' =>
    have hstep : Scan.Step t t' := Scan.step_of_body (b := b) (by rw [hx]; rfl)
    have hs := hstep.shrinks
    have hne := Scan.rest_ne_nil_of_body_cont hx
    simp only [passesLeft, if_neg hne]
    rcases hs with hs | hs
    · omega
    · rw [hs, List.length_nil]
      have := List.length_pos_of_ne_nil hne
      omega

theorem scanLoop_isSome (b : Bool) (n : Nat) {x : Next Scan} (hx : passesLeft x ≤ n) :
    (scanLoop b n x).isSome := by
  induction n generalizing x with
  | zero =>
    cases x with
    | fail m => rfl
    | next t =>
      simp only [passesLeft] at hx
      split_ifs at hx <;> omega
    | cont t => simp [passesLeft] at hx
  | succ n ih =>
    cases x with
    | fail m => rfl
    | next t =>
      simp only [scanLoop]
      split_ifs with hr
      · apply ih
        have := passesLeft_body b t
        rw [if_neg hr] at this
        simp only [passesLeft, if_neg hr] at hx
        omega
      · rfl
    | cont t =>
      apply ih
      have := passesLeft_body b t
      simp only [passesLeft] at hx
      split_ifs at this <;> omega

theorem parse_ne_none {sv : Nat} {input : List UInt8} {p : MrdbParser} (b : Bool)
    (hp : MrdbParser.init sv input = some p) : p.parse b ≠ none := by
  have hne : input ≠ [] := by
    rintro rfl
    simp [MrdbParser.init] at hp
  have hscan : (p.scan b input).isSome := scanLoop_isSome b _ (by simp [passesLeft, hne])
  have hsim := init_parse_sim b hp
  intro hnone
  rw [hnone] at hsim
  rcases hs : p.scan b input with _ | _ | t
  · simp [hs] at hscan
  · rw [hs] at hsim
    exact hsim.elim
  · rw [hs] at hsim
    exact hsim.elim

/-- The rewrite of a parsed statement, read as the pieces `ps`: the input is rewritten to the
first `length` bytes of the buffer, the offsets are those of the `?`s written for the
placeholders and strictly increase, and the keys are the `%(key)s` names. -/
structure Rewritten (input : List UInt8) (q : MrdbParser) (ps : List Piece) : Prop where
  input_eq : source Piece.src ps = input
  output_eq : q.statement.take q.length = target Piece.dst ps
  length_eq : q.length = input.length - (ps.map Piece.removed).sum
  paramList_eq : q.paramList = marks Piece.dst Piece.isParam ps 0
  increasing : q.paramList.Pairwise (· < ·)
  at_qmark : ∀ i ∈ q.paramList, (q.statement.take q.length)[i]? = some 63
  keys_eq : q.keys = ps.filterMap Piece.key?
  count_eq : q.paramCount = q.paramList.length
  pyformat_keys : q.paramstyle = .pyformat → q.keys.length = q.paramCount

theorem getElem?_eq_of_prefix_drop {l : List UInt8} {i : Nat} {c : UInt8}
    (h : [c] <+: l.drop i) : l[i]? = some c := by
  obtain ⟨u, hu⟩ := h
  rw [← List.head?_drop, ← hu]
  rfl

theorem Rewrites.rewritten {input : List UInt8} {t : Scan} {ps : List Piece} {q : MrdbParser}
    (h : Rewrites input t ps) (hrest : t.rest = [])
    (hq : q = { t.p with statement := q.statement, length := t.out.length })
    (htake : q.statement.take q.length = t.out) : Rewritten input q ps := by
  have hread : source Piece.src ps = input := by simpa [hrest] using h.read
  have hlen : q.length = t.out.length := by rw [hq]
  have hlist : q.paramList = t.p.paramList := by rw [hq]
  have hkeys : q.keys = t.p.keys := by rw [hq]
  have hcount : q.paramCount = t.p.paramCount := by rw [hq]
  have hstyle : q.paramstyle = t.p.paramstyle := by rw [hq]
  have hne : ∀ pc ∈ ps, pc.isParam = true → pc.dst ≠ [] := fun pc _ hpc => by
    simp [Piece.dst_of_isParam hpc]
  refine ⟨hread, by rw [htake, h.written], ?_, by rw [hlist, h.offsets], ?_, ?_,
    by rw [hkeys, h.keys], by rw [hcount, hlist, h.count], ?_⟩
  · -- each piece drops what it reads beyond its replacement
    have := length_target_add Piece.src Piece.dst ps (fun pc _ => pc.dst_length_le)
    rw [h.written, hread] at this
    have hsum : (ps.map Piece.removed).sum =
        (ps.map fun pc => pc.src.length - pc.dst.length).sum := rfl
    omega
  · rw [hlist, h.offsets]
    exact marks_pairwise Piece.dst Piece.isParam ps 0 hne
  · intro i hi
    rw [hlist, h.offsets] at hi
    obtain ⟨pc, -, hpc, hpre⟩ := marks_spec Piece.dst Piece.isParam hi
    rw [htake, ← h.written]
    rw [Piece.dst_of_isParam hpc, Nat.sub_zero] at hpre
    exact getElem?_eq_of_prefix_drop hpre
  · intro hpy
    rw [hkeys, hcount, h.keys, h.count, h.offsets, length_marks]
    exact Piece.length_filterMap_key fun pc hmem hpc => by
      rw [h.style pc hmem hpc, ← hstyle, hpy]

/-- The rewrite of a finished parse, as `parse_rewrite` below states it and the cursor's
substitution uses it. -/
theorem rewritten_of_parse {sv : Nat} {input : List UInt8} {p q : MrdbParser} (b : Bool)
    (hp : MrdbParser.init sv input = some p) (hq : p.parse b = some (.ok q)) :
    ∃ ps, Rewritten input q ps := by
  have hsim := init_parse_sim b hp
  rw [hq] at hsim
  rcases hs : p.scan b input with _ | _ | t
  · rw [hs] at hsim
    exact hsim.elim
  · rw [hs] at hsim
    exact hsim.elim
  · rw [hs] at hsim
    obtain ⟨hqt, htake, hrest⟩ := hsim
    have hloop : scanLoop b (input.length + 3)
        (.next { p, out := [], rest := input, lastchar := 0 }) = some (.ok t) := hs
    obtain ⟨ps, hps⟩ := scanLoop_rewrites b _ (fun t₁ ht₁ => by
      cases ht₁
      exact ⟨[], rewrites_init hp⟩) hloop
    exact ⟨ps, hps.rewritten hrest hqt htake⟩

theorem Rewritten.mem_output {input : List UInt8} {q : MrdbParser} {ps : List Piece}
    (h : Rewritten input q ps) {c : UInt8} (hc : c ∈ q.statement.take q.length) :
    c ∈ input ∨ c = 63 := by
  rw [h.output_eq, target, List.mem_flatMap] at hc
  obtain ⟨pc, hpc, hc⟩ := hc
  cases pc with
  | byte b =>
    left
    rw [← h.input_eq, source, List.mem_flatMap]
    exact ⟨.byte b, hpc, hc⟩
  | qmark | format _ | pyformat _ =>
    simp only [Piece.dst, List.mem_singleton] at hc
    exact .inr hc

/-- Without a `%` every piece is a byte or a `?`, which the rewrite keeps: the statement is its
own rewrite. -/
theorem Rewritten.output_eq_input {input : List UInt8} {q : MrdbParser} {ps : List Piece}
    (h : Rewritten input q ps) (h37 : 37 ∉ input) : q.statement.take q.length = input := by
  have hkeep : ∀ pc ∈ ps, pc.dst = pc.src := by
    intro pc hpc
    -- a `%s` or `%(key)s` would put its `%` in the input
    have hpercent : 37 ∈ pc.src → False := fun h' => h37 (by
      rw [← h.input_eq, source, List.mem_flatMap]
      exact ⟨pc, hpc, h'⟩)
    cases pc with
    | byte b => rfl
    | qmark => rfl
    | format d => exact (hpercent (by simp [Piece.src])).elim
    | pyformat key => exact (hpercent (by simp [Piece.src])).elim
  rw [h.output_eq, ← h.input_eq, target, source]
  exact List.flatMap_congr hkeep

/-- `MrdbParser_parse` on a fresh parser replaces each recognised placeholder by one `?` and
keeps every other byte in order; the offsets are those of the `?`s, strictly increasing, and
for `%(key)s` there is one key per placeholder. -/
theorem parse_rewrite {sv : Nat} {input : List UInt8} {p q : MrdbParser} (b : Bool)
    (hp : MrdbParser.init sv input = some p) (hq : p.parse b = some (.ok q)) :
    ∃ ps, Rewritten input q ps :=
  rewritten_of_parse b hp hq

theorem parse_rewrite_pyformat :
    MrdbParser.init 0 [37, 40, 97, 41, 115] = some
        ⟨[37, 40, 97, 41, 115, 0], 5, [], fun _ => false, false, false, false, 0, none, [], .none,
          .sqlNone, 0⟩ ∧
      MrdbParser.parse false
          ⟨[37, 40, 97, 41, 115, 0], 5, [], fun _ => false, false, false, false, 0, none, [],
            .none, .sqlNone, 0⟩ = some (.ok
        ⟨[63, 0, 97, 41, 115, 0], 1, [[97]], fun _ => false, false, false, false, 1, none, [0],
          .pyformat, .sqlNone, 0⟩) ∧
      ∃ ps, Rewritten [37, 40, 97, 41, 115]
        ⟨[63, 0, 97, 41, 115, 0], 1, [[97]], fun _ => false, false, false, false, 1, none, [0],
          .pyformat, .sqlNone, 0⟩ ps :=
  ⟨rfl, rfl, parse_rewrite false rfl rfl⟩

end MariadbConnector
