import MariadbConnector.Lib.CString

/-! Decimal renderings of naturals as ASCII digits, zero padding, and the value a digit run
reads as. -/
namespace Decimal

open CString

/-- The ASCII byte of the digit `d`. -/
def digitByte (d : Nat) : UInt8 := UInt8.ofNat (48 + d)

/-- The decimal digits of `n`, most significant first; `0` is the single digit `0`. -/
def digits (n : Nat) : List UInt8 :=
  if n = 0 then [48] else (Nat.digits 10 n).reverse.map digitByte

/-- `n` in at least `width` digits, with leading zeros. -/
def padded (width n : Nat) : List UInt8 :=
  List.replicate (width - (digits n).length) 48 ++ digits n

theorem toNat_digitByte {d : Nat} (hd : d < 10) : (digitByte d).toNat = 48 + d := by
  simp only [digitByte, UInt8.toNat_ofNat']
  omega

theorem isdigit_digitByte {d : Nat} (hd : d < 10) : isdigit (digitByte d) = true := by
  simp only [isdigit, toNat_digitByte hd, Bool.and_eq_true, decide_eq_true_eq]
  omega

theorem digitsValue_append (xs ys : List UInt8) :
    digitsValue (xs ++ ys) = ys.foldl (fun v d => 10 * v + (d.toNat - 48)) (digitsValue xs) := by
  simp [digitsValue, List.foldl_append]

theorem digitsValue_snoc (xs : List UInt8) (b : UInt8) :
    digitsValue (xs ++ [b]) = 10 * digitsValue xs + (b.toNat - 48) := by
  simp [digitsValue_append]

/-- The digits of a little-endian digit list, written most significant first, read as the
number they denote. -/
theorem digitsValue_reverse (L : List Nat) (hL : ∀ d ∈ L, d < 10) :
    digitsValue (L.reverse.map digitByte) = Nat.ofDigits 10 L := by
  induction L with
  | nil => rfl
  | cons d L ih =>
    have hd := hL d List.mem_cons_self
    rw [List.reverse_cons, List.map_append, List.map_singleton, digitsValue_snoc,
      ih (fun e he => hL e (List.mem_cons_of_mem _ he)), toNat_digitByte hd, Nat.ofDigits_cons]
    omega

@[simp] theorem digitsValue_digits (n : Nat) : digitsValue (digits n) = n := by
  unfold digits
  split_ifs with hn
  · simp [hn, digitsValue]
  · rw [digitsValue_reverse _ (fun d hd => Nat.digits_lt_base (by norm_num) hd),
      Nat.ofDigits_digits]

theorem isdigit_of_mem_digits {n : Nat} {b : UInt8} (hb : b ∈ digits n) : isdigit b = true := by
  unfold digits at hb
  split_ifs at hb
  · simp only [List.mem_singleton] at hb
    subst hb
    decide
  · obtain ⟨d, hd, rfl⟩ := List.mem_map.mp hb
    exact isdigit_digitByte (Nat.digits_lt_base (by norm_num) (List.mem_reverse.mp hd))

theorem digits_ne_nil (n : Nat) : digits n ≠ [] := by
  unfold digits
  split_ifs with hn
  · simp
  · simpa using Nat.digits_ne_nil_iff_ne_zero.mpr hn

theorem head_digits_ne_zero {n : Nat} (hn : n ≠ 0) : (digits n).head? ≠ some 48 := by
  have hne : Nat.digits 10 n ≠ [] := Nat.digits_ne_nil_iff_ne_zero.mpr hn
  have hlast := Nat.getLast_digit_ne_zero 10 hn
  have hlt := Nat.digits_lt_base (by norm_num) (List.getLast_mem hne)
  simp only [digits, hn, if_false, List.head?_map, List.head?_reverse, List.getLast?_eq_some_getLast hne,
    Option.map_some, ne_eq, Option.some.injEq]
  intro h
  have := congrArg UInt8.toNat h
  rw [toNat_digitByte hlt] at this
  simp at this
  omega

theorem digitsValue_replicate_zero (k : Nat) (ds : List UInt8) :
    digitsValue (List.replicate k 48 ++ ds) = digitsValue ds := by
  have hz : digitsValue (List.replicate k 48) = 0 := by
    induction k with
    | zero => rfl
    | succ k ih =>
      rw [List.replicate_succ', digitsValue_snoc, ih]
      rfl
  rw [digitsValue_append, hz]
  rfl

end Decimal
