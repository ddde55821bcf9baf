import Mathlib

/-! C byte buffers as lists: reads past the end, `memmove`, the C-locale character classes,
and the NUL-terminated scans `strstr` and `strtol`. -/
namespace CString

/-! ### Reads and in-place moves -/

/-- What a reader of `data` as a C string sees: the bytes up to the first NUL. -/
def cString (data : List UInt8) : List UInt8 := data.takeWhile (· != 0)


/-- The byte at offset `i`; a read past the end sees the terminating `0`. -/
def peek (buf : List UInt8) (i : Nat) : UInt8 := buf.getD i 0

/-- `memmove(buf + dst, buf + src, n)`: the `n` bytes at `src` are copied to `dst`. -/
def memmove {α : Type} (buf : List α) (dst src n : Nat) : List α :=
  buf.take dst ++ (buf.drop src).take n ++ buf.drop (dst + n)

theorem peek_append_of_le (pre l junk : List UInt8) {k : Nat} (hk : k ≤ l.length) :
    peek (pre ++ l ++ 0 :: junk) (pre.length + k) = peek l k := by
  unfold peek
  rw [List.append_assoc, List.getD_append_right _ _ _ _ (by omega), Nat.add_sub_cancel_left]
  rcases Nat.lt_or_ge k l.length with hlt | hge
  · rw [List.getD_append _ _ _ _ hlt]
  · have hk' : k = l.length := by omega
    subst hk'
    simp

theorem memmove_close_gap {α : Type} (pre gap mid post : List α) :
    memmove (pre ++ gap ++ mid ++ post) pre.length (pre.length + gap.length) mid.length =
      pre ++ mid ++ (gap ++ mid ++ post).drop mid.length := by
  have htake : (pre ++ gap ++ mid ++ post).take pre.length = pre := by
    simp [List.append_assoc]
  have hmid : ((pre ++ gap ++ mid ++ post).drop (pre.length + gap.length)).take mid.length =
      mid := by
    rw [show pre ++ gap ++ mid ++ post = (pre ++ gap) ++ (mid ++ post) by simp,
      show pre.length + gap.length = (pre ++ gap).length by simp, List.drop_left]
    simp
  have hdrop : (pre ++ gap ++ mid ++ post).drop (pre.length + mid.length) =
      (gap ++ mid ++ post).drop mid.length := by
    rw [← List.drop_drop, List.append_assoc, List.append_assoc, List.drop_left,
      List.append_assoc]
  simp only [memmove, htake, hmid, hdrop]

/-! ### Character classes of the C locale -/

/-- `isspace`: space, tab, newline, vertical tab, form feed, carriage return. -/
def isspace (b : UInt8) : Bool := b.toNat == 32 || (9 ≤ b.toNat && b.toNat ≤ 13)

/-- `isdigit`. -/
def isdigit (b : UInt8) : Bool := 48 ≤ b.toNat && b.toNat ≤ 57

/-- `toupper`. -/
def toupper (b : UInt8) : UInt8 := if 97 ≤ b.toNat && b.toNat ≤ 122 then b - 32 else b

@[simp] theorem isdigit_zero : isdigit 0 = false := by decide

@[simp] theorem toupper_zero : toupper 0 = 0 := by decide

/-! ### Scans that stop at the terminating NUL -/

theorem takeWhile_append_of_neg {α : Type} {p : α → Bool} {x : α} (hx : p x = false)
    (l junk : List α) : (l ++ x :: junk).takeWhile p = l.takeWhile p := by
  induction l with
  | nil => simp [hx]
  | cons b l ih => by_cases hb : p b <;> simp [hb, ih]

/-- The value of a run of decimal digits. -/
def digitsValue (ds : List UInt8) : Nat :=
  ds.foldl (fun v d => 10 * v + (d.toNat - 48)) 0

/-- `strtol(s, &x, 10)`: leading space, an optional sign and the longest digit run, clamped to
`long`; the second component is how far `x` lies past `s` (zero when no digit is read). -/
def strtol (s : List UInt8) : Int × Nat :=
  let ws := (s.takeWhile isspace).length
  let s₁ := s.drop ws
  let neg := s₁.head? == some 45
  let sgn := if s₁.head? == some 45 || s₁.head? == some 43 then 1 else 0
  let ds := (s₁.drop sgn).takeWhile isdigit
  if ds = [] then (0, 0)
  else
    let v : Int := digitsValue ds
    (if neg then max (-v) (-2 ^ 63) else min v (2 ^ 63 - 1), ws + sgn + ds.length)

theorem strtol_of_isdigit {d : UInt8} (hd : isdigit d = true) (l : List UInt8) :
    strtol (d :: l) =
      (min (digitsValue ((d :: l).takeWhile isdigit) : Int) (2 ^ 63 - 1),
        ((d :: l).takeWhile isdigit).length) := by
  have hs : isspace d = false := by
    simp only [isdigit, Bool.and_eq_true, decide_eq_true_eq] at hd
    simp only [isspace, Bool.or_eq_false_iff, beq_eq_false_iff_ne, Bool.and_eq_false_iff,
      decide_eq_false_iff_not]
    omega
  have hneg : d ≠ 45 := by rintro rfl; simp [isdigit] at hd
  have hpos : d ≠ 43 := by rintro rfl; simp [isdigit] at hd
  simp [strtol, hs, hd, hneg, hpos]

theorem strtol_append_nul_of_isdigit {d : UInt8} (hd : isdigit d = true) (l junk : List UInt8) :
    strtol (d :: l ++ 0 :: junk) = strtol (d :: l) := by
  rw [List.cons_append, strtol_of_isdigit hd, strtol_of_isdigit hd, ← List.cons_append,
    takeWhile_append_of_neg isdigit_zero]

/-- `strstr(hay, needle)`: the offset of the first occurrence of `needle` in the C string
`hay`, reading no further than its terminating NUL. -/
def strstr (needle : List UInt8) : List UInt8 → Option Nat
  | [] => if needle = [] then some 0 else none
  | b :: rest =>
    if needle.isPrefixOf (b :: rest) then some 0
    else if b = 0 then none
    else (strstr needle rest).map (· + 1)

theorem isPrefixOf_append_nul {needle : List UInt8} (hn : 0 ∉ needle) (l junk : List UInt8) :
    needle.isPrefixOf (l ++ 0 :: junk) = needle.isPrefixOf l := by
  induction needle generalizing l with
  | nil => simp
  | cons c cs ih =>
    have hc : c ≠ 0 := fun h => hn (h ▸ List.mem_cons_self)
    have hcs : 0 ∉ cs := fun h => hn (List.mem_cons_of_mem _ h)
    cases l with
    | nil => simp [List.isPrefixOf, hc]
    | cons b l => simp [List.isPrefixOf, ih hcs]

theorem strstr_append_nul {needle : List UInt8} (hne : needle ≠ []) (hn : 0 ∉ needle)
    (l junk : List UInt8) : strstr needle (l ++ 0 :: junk) = strstr needle l := by
  induction l with
  | nil =>
    obtain ⟨c, cs, rfl⟩ := List.exists_cons_of_ne_nil hne
    have hc : c ≠ 0 := fun h => hn (h ▸ List.mem_cons_self)
    simp [strstr, List.isPrefixOf, hc]
  | cons b l ih =>
    simp only [List.cons_append, strstr, ih]
    rw [← List.cons_append, isPrefixOf_append_nul hn]

theorem strstr_spec {needle : List UInt8} (hne : needle ≠ []) :
    ∀ {l : List UInt8} {j : Nat}, strstr needle l = some j →
      j + needle.length ≤ l.length ∧ (l.drop j).take needle.length = needle
  | [], j, h => by simp [strstr, hne] at h
  | b :: rest, j, h => by
    unfold strstr at h
    split_ifs at h with hp hb
    · cases h
      have hpre := List.isPrefixOf_iff_prefix.mp hp
      exact ⟨by simpa using hpre.length_le, by simpa using (List.prefix_iff_eq_take.mp hpre).symm⟩
    · obtain ⟨i, hi, rfl⟩ := Option.map_eq_some_iff.mp h
      obtain ⟨h1, h2⟩ := strstr_spec hne hi
      exact ⟨by simp; omega, by simpa using h2⟩

/-- `strncmp(s, t, n)`: at most `n` bytes compared in order, stopping after a `NUL` both hold;
the difference of the first two bytes that differ, as `unsigned char`s, or `0`. -/
def strncmp : List UInt8 → List UInt8 → Nat → Int
  | _, _, 0 => 0
  | s, t, n + 1 =>
    if peek s 0 ≠ peek t 0 then (peek s 0).toNat - (peek t 0).toNat
    else if peek s 0 = 0 then 0
    else strncmp s.tail t.tail n

/-- Bounded by the length of a string without `NUL` bytes, `strncmp` tests whether that string
starts the other: it does not see what the other holds past it. -/
theorem strncmp_length_eq_zero_iff {s : List UInt8} (hs : 0 ∉ s) (t : List UInt8) :
    strncmp s t s.length = 0 ↔ s <+: t := by
  induction s generalizing t with
  | nil => simp [strncmp]
  | cons a s ih =>
    have ha : a ≠ 0 := fun h => hs (h ▸ List.mem_cons_self)
    have hs' : 0 ∉ s := fun h => hs (List.mem_cons_of_mem a h)
    have hpeek : peek (a :: s) 0 = a := rfl
    rw [List.length_cons, strncmp, hpeek]
    by_cases hab : a = peek t 0
    · -- the first bytes agree, so `t` is `a` followed by its tail
      have ht : t = a :: t.tail := by
        cases t with
        | nil => exact absurd hab.symm (by simpa [peek] using ha.symm)
        | cons b t' =>
          have hb : a = b := by simpa [peek] using hab
          rw [hb, List.tail_cons]
      rw [if_neg (not_not.mpr hab), if_neg ha, List.tail_cons, ih hs' t.tail, ht,
        List.cons_prefix_cons]
      simp
    · -- a byte that differs makes the difference non-zero and `t` not start with `a`
      rw [if_pos hab]
      have hdiff : (a.toNat : Int) - (peek t 0).toNat ≠ 0 := by
        intro h
        exact hab (UInt8.toNat_inj.mp (by omega))
      simp only [hdiff, false_iff]
      intro hpre
      cases t with
      | nil => simp at hpre
      | cons b t' =>
        rw [List.cons_prefix_cons] at hpre
        exact hab (by simp [peek, hpre.1])

end CString
