import Mathlib

/-! Splicing: a text read as a sequence of tokens, each written to the output as its own
replacement text, and the offsets in the output at which the marked tokens' replacements
start. -/
namespace Splice

variable {τ α : Type} (src dst : τ → List α) (marked : τ → Bool)

/-- The text the tokens are read from. -/
def source (ts : List τ) : List α := ts.flatMap src

/-- The text the tokens are written as. -/
def target (ts : List τ) : List α := ts.flatMap dst

/-- The offsets, counted from `base`, at which the replacements of the marked tokens start. -/
def marks : List τ → Nat → List Nat
  | [], _ => []
  | t :: ts, base => (if marked t then [base] else []) ++ marks ts (base + (dst t).length)

@[simp] theorem source_nil : source src ([] : List τ) = [] := rfl

@[simp] theorem source_append (ts us : List τ) :
    source src (ts ++ us) = source src ts ++ source src us := by
  simp [source]

@[simp] theorem source_singleton (t : τ) : source src [t] = src t := by
  simp [source]

@[simp] theorem target_append (ts us : List τ) :
    target dst (ts ++ us) = target dst ts ++ target dst us := by
  simp [target]

@[simp] theorem target_singleton (t : τ) : target dst [t] = dst t := by
  simp [target]

theorem marks_append (ts us : List τ) (base : Nat) :
    marks dst marked (ts ++ us) base =
      marks dst marked ts base ++ marks dst marked us (base + (target dst ts).length) := by
  induction ts generalizing base with
  | nil => simp [marks, target]
  | cons t ts ih =>
    simp only [List.cons_append, marks, ih, List.append_assoc]
    simp [target, Nat.add_assoc]

theorem length_marks (ts : List τ) (base : Nat) :
    (marks dst marked ts base).length = (ts.filter marked).length := by
  induction ts generalizing base with
  | nil => rfl
  | cons t ts ih =>
    by_cases ht : marked t <;> simp [marks, ht, ih]

theorem le_of_mem_marks {ts : List τ} {base i : Nat} (h : i ∈ marks dst marked ts base) :
    base ≤ i := by
  induction ts generalizing base with
  | nil => simp [marks] at h
  | cons t ts ih =>
    simp only [marks, List.mem_append] at h
    rcases h with h | h
    · by_cases ht : marked t <;> simp_all
    · have := ih h
      omega

theorem marks_pairwise (ts : List τ) (base : Nat) (hne : ∀ t ∈ ts, marked t → dst t ≠ []) :
    (marks dst marked ts base).Pairwise (· < ·) := by
  induction ts generalizing base with
  | nil => exact List.Pairwise.nil
  | cons t ts ih =>
    have hrest := ih (base + (dst t).length) (fun u hu => hne u (List.mem_cons_of_mem _ hu))
    simp only [marks]
    by_cases ht : marked t
    · have hpos : 0 < (dst t).length := List.length_pos_of_ne_nil (hne t List.mem_cons_self ht)
      simp only [ht, if_true, List.singleton_append, List.pairwise_cons]
      refine ⟨fun i hi => ?_, hrest⟩
      have := le_of_mem_marks dst marked hi
      omega
    · simpa [ht] using hrest

theorem marks_spec {ts : List τ} {base i : Nat} (h : i ∈ marks dst marked ts base) :
    ∃ t ∈ ts, marked t ∧ dst t <+: (target dst ts).drop (i - base) := by
  induction ts generalizing base with
  | nil => simp [marks] at h
  | cons t ts ih =>
    simp only [marks, List.mem_append] at h
    rcases h with h | h
    · by_cases ht : marked t
      · simp only [ht, if_true, List.mem_singleton] at h
        subst h
        exact ⟨t, List.mem_cons_self, ht, by simp [target]⟩
      · simp [ht] at h
    · obtain ⟨u, hu, hmu, hpre⟩ := ih h
      refine ⟨u, List.mem_cons_of_mem _ hu, hmu, ?_⟩
      -- the mark lies past the replacement of the head token
      have hle := le_of_mem_marks dst marked h
      have hdrop : (target dst (t :: ts)).drop (i - base) =
          (target dst ts).drop (i - (base + (dst t).length)) := by
        rw [show i - base = (dst t).length + (i - (base + (dst t).length)) by omega]
        simp [target, List.drop_append]
      rw [hdrop]
      exact hpre

/-- Each token's replacement is no longer than what it reads, so the output is shorter by the
bytes the tokens drop. -/
theorem length_target_add (ts : List τ) (hle : ∀ t ∈ ts, (dst t).length ≤ (src t).length) :
    (target dst ts).length + (ts.map fun t => (src t).length - (dst t).length).sum =
      (source src ts).length := by
  induction ts with
  | nil => rfl
  | cons t ts ih =>
    have ht := hle t List.mem_cons_self
    have := ih (fun u hu => hle u (List.mem_cons_of_mem _ hu))
    simp only [target, source, List.flatMap_cons, List.length_append, List.map_cons,
      List.sum_cons] at this ⊢
    omega

/-! ### Replacing single elements at increasing offsets -/

section Replace

variable {α : Type}

/-- The element at each offset replaced by its text; offsets count in the original list, and
`base` is the original offset of the head of `s`. -/
def replaceAt : List α → Nat → List (Nat × List α) → List α
  | s, _, [] => s
  | s, base, (o, r) :: rest =>
    s.take (o - base) ++ r ++ replaceAt (s.drop (o - base + 1)) (o + 1) rest

/-- The position a Python slice bound `k` stands for in a list of length `n`: a negative bound
counts from the end. -/
def sliceIndex (n : Nat) (k : Int) : Nat := if k < 0 then ((n : Int) + k).toNat else k.toNat

theorem sliceIndex_of_nonneg {n : Nat} {k : Int} (h : 0 ≤ k) : sliceIndex n k = k.toNat :=
  if_neg (not_lt.mpr h)

/-- The same replacements done one after another in place, as `s[:k] + r + s[k+1:]` with `k` the
offset shifted by `d`, the length the earlier replacements added. -/
def replaceShifted : List α → Int → List (Nat × List α) → List α
  | s, _, [] => s
  | s, d, (o, r) :: rest =>
    let k : Int := o + d
    replaceShifted (s.take (sliceIndex s.length k) ++ r ++ s.drop (sliceIndex s.length (k + 1)))
      (d + r.length - 1) rest

/-- Offsets from `base` on that increase and stay inside a list of length `n` past `base`. -/
def Increasing : Nat → Nat → List (Nat × List α) → Prop
  | _, _, [] => True
  | base, n, (o, _) :: rest => base ≤ o ∧ o < base + n ∧ Increasing (o + 1) (base + n - (o + 1)) rest

theorem replaceShifted_append (ops : List (Nat × List α)) :
    ∀ (pre s : List α) (base : Nat), Increasing base s.length ops →
      replaceShifted (pre ++ s) ((pre.length : Int) - base) ops = pre ++ replaceAt s base ops := by
  induction ops with
  | nil => intro pre s base _; rfl
  | cons op rest ih =>
    obtain ⟨o, r⟩ := op
    intro pre s base ⟨hlo, hhi, hrest⟩
    have hk : sliceIndex (pre ++ s).length ((o : Int) + ((pre.length : Int) - base)) =
        pre.length + (o - base) := by
      rw [sliceIndex_of_nonneg (by omega)]
      omega
    have hk1 : sliceIndex (pre ++ s).length ((o : Int) + ((pre.length : Int) - base) + 1) =
        pre.length + (o - base) + 1 := by
      rw [sliceIndex_of_nonneg (by omega)]
      omega
    have htake : (pre ++ s).take (pre.length + (o - base)) = pre ++ s.take (o - base) := by
      simp [List.take_append]
    have hdrop : (pre ++ s).drop (pre.length + (o - base) + 1) = s.drop (o - base + 1) := by
      rw [Nat.add_assoc, List.drop_append]
      simp
    -- the next offset is counted from the byte after this one
    have hl : (s.drop (o - base + 1)).length = base + s.length - (o + 1) := by
      simp only [List.length_drop]
      omega
    have hd : ((pre ++ s.take (o - base) ++ r).length : Int) - ((o + 1 : Nat) : Int) =
        (pre.length : Int) - base + r.length - 1 := by
      simp only [List.length_append, List.length_take]
      omega
    have ih' := ih (pre ++ s.take (o - base) ++ r) (s.drop (o - base + 1)) (o + 1) (hl ▸ hrest)
    rw [hd] at ih'
    simp only [replaceShifted, replaceAt]
    rw [hk, hk1, htake, hdrop, ih']
    simp only [List.append_assoc]

theorem increasing_of_pairwise : ∀ {ops : List (Nat × List α)} {base n : Nat},
    (ops.map Prod.fst).Pairwise (· < ·) → (∀ op ∈ ops, base ≤ op.1 ∧ op.1 < base + n) →
    Increasing base n ops
  | [], _, _, _, _ => trivial
  | (o, r) :: rest, base, n, hp, hb => by
    rw [List.map_cons, List.pairwise_cons] at hp
    obtain ⟨hlo, hhi⟩ := hb (o, r) List.mem_cons_self
    refine ⟨hlo, hhi, increasing_of_pairwise hp.2 fun op hop => ?_⟩
    have hgt := hp.1 op.1 (List.mem_map_of_mem hop)
    have hin := hb op (List.mem_cons_of_mem _ hop)
    omega

/-- With offsets that increase inside the list, the in-place loop started with no shift makes
the replacements at the original offsets. -/
theorem replaceShifted_eq_replaceAt {ops : List (Nat × List α)} {s : List α}
    (h : Increasing 0 s.length ops) : replaceShifted s 0 ops = replaceAt s 0 ops := by
  simpa using replaceShifted_append ops [] s 0 h

end Replace

end Splice
