import MariadbConnector.Codecs.TimeText

/-! `my_strtoull` and `my_strtoui`: the loop reads the longest prefix of the digit run that fits
in 64 bits. -/

namespace MariadbConnector

open CString

/-- The loop of `my_strtoull` from the value `acc`, against the run of digits `s` starts with:
the prefix of the run it reads is the longest whose value from `acc` fits in 64 bits, it returns
that value, and it stops on `ERANGE` exactly when it leaves digits of the run unread. -/
structure StrtoullSpec (acc : Nat) (s : List UInt8) (r : Nat × Nat × Bool) : Prop where
  taken_le : r.2.1 ≤ (s.takeWhile isdigit).length
  value_eq : r.1 = ((s.takeWhile isdigit).take r.2.1).foldl (fun v d => 10 * v + (d.toNat - 48)) acc
  fits_iff : ∀ j ≤ (s.takeWhile isdigit).length,
    ((s.takeWhile isdigit).take j).foldl (fun v d => 10 * v + (d.toNat - 48)) acc ≤ 2 ^ 64 - 1 ↔
      j ≤ r.2.1
  overflow_iff : r.2.2 = true ↔ r.2.1 < (s.takeWhile isdigit).length

theorem strtoull_guard_iff (acc : Nat) {b : UInt8} (hb : isdigit b = true) :
    ((2 ^ 64 - 1) / 10 < acc ∨ 2 ^ 64 - 1 - (b.toNat - 48) < acc * 10) ↔
      2 ^ 64 - 1 < 10 * acc + (b.toNat - 48) := by
  have hd : 48 ≤ b.toNat ∧ b.toNat ≤ 57 := by simpa [isdigit] using hb
  omega

theorem strtoullSpec_stop {acc : Nat} (hacc : acc ≤ 2 ^ 64 - 1) {s : List UInt8}
    (hs : s.takeWhile isdigit = []) : StrtoullSpec acc s (acc, 0, false) where
  taken_le := Nat.zero_le _
  value_eq := by simp
  fits_iff := by
    intro j hj
    rw [hs, List.length_nil, Nat.le_zero] at hj
    subst hj
    simpa using hacc
  overflow_iff := by
    rw [hs]
    simp

theorem strtoullSpec_overflow {acc : Nat} (hacc : acc ≤ 2 ^ 64 - 1) {b : UInt8} (bs : List UInt8)
    (hb : isdigit b = true) (hov : 2 ^ 64 - 1 < 10 * acc + (b.toNat - 48)) :
    StrtoullSpec acc (b :: bs) (acc, 0, true) where
  taken_le := Nat.zero_le _
  value_eq := by simp
  fits_iff := by
    intro j _
    rw [List.takeWhile_cons_of_pos hb]
    cases j with
    | zero => simpa using hacc
    | succ j =>
      -- the value from the overflowing digit on only grows
      have hgrow := le_foldl_digit ((bs.takeWhile isdigit).take j) (10 * acc + (b.toNat - 48))
      simp only [List.take_succ_cons, List.foldl_cons]
      omega
  overflow_iff := by simp [List.takeWhile_cons_of_pos hb]

theorem StrtoullSpec.cons {acc : Nat} (hacc : acc ≤ 2 ^ 64 - 1) {b : UInt8} {bs : List UInt8}
    (hb : isdigit b = true) {r : Nat × Nat × Bool}
    (h : StrtoullSpec (10 * acc + (b.toNat - 48)) bs r) :
    StrtoullSpec acc (b :: bs) (r.1, r.2.1 + 1, r.2.2) where
  taken_le := by
    rw [List.takeWhile_cons_of_pos hb, List.length_cons]
    exact Nat.succ_le_succ h.taken_le
  value_eq := by
    rw [List.takeWhile_cons_of_pos hb, List.take_succ_cons, List.foldl_cons]
    exact h.value_eq
  fits_iff := by
    intro j hj
    dsimp only
    rw [List.takeWhile_cons_of_pos hb] at hj ⊢
    cases j with
    | zero => simpa using hacc
    | succ j =>
      rw [List.take_succ_cons, List.foldl_cons, h.fits_iff j (by simpa using hj)]
      omega
  overflow_iff := by
    dsimp only
    rw [h.overflow_iff, List.takeWhile_cons_of_pos hb, List.length_cons]
    omega

theorem StrtoullSpec.overflow_iff_lt {acc : Nat} {s : List UInt8} {r : Nat × Nat × Bool}
    (h : StrtoullSpec acc s r) :
    r.2.2 = true ↔
      2 ^ 64 - 1 < (s.takeWhile isdigit).foldl (fun v d => 10 * v + (d.toNat - 48)) acc := by
  have hall := h.fits_iff _ (le_refl _)
  rw [List.take_length] at hall
  rw [h.overflow_iff, ← not_le, ← hall, not_le]

theorem strtoullGo_spec (s : List UInt8) :
    ∀ acc ≤ 2 ^ 64 - 1, StrtoullSpec acc s (strtoullGo acc s) := by
  induction s with
  | nil => exact fun acc hacc => strtoullSpec_stop hacc rfl
  | cons b bs ih =>
    intro acc hacc
    by_cases hb : isdigit b = true
    · by_cases hov : 2 ^ 64 - 1 < 10 * acc + (b.toNat - 48)
      · rw [strtoullGo, if_neg (not_digit_of_isdigit hb),
          if_pos ((strtoull_guard_iff acc hb).mpr hov)]
        exact strtoullSpec_overflow hacc bs hb hov
      · rw [strtoullGo, if_neg (not_digit_of_isdigit hb),
          if_neg (fun h => hov ((strtoull_guard_iff acc hb).mp h))]
        exact (ih _ (by omega)).cons hacc hb
    · have hnd : isdigit b = false := by simpa using hb
      rw [strtoullGo, if_pos ((isdigit_eq_false_iff b).mp hnd)]
      exact strtoullSpec_stop hacc (by simp [List.takeWhile_cons_of_neg hb])

/-- **`my_strtoull` reads the longest prefix of digits that fits.** On any `len` bytes `s` and any
`*err` on entry, `my_strtoull` reads a prefix of the digit run `s` starts with: exactly the
prefixes of the run whose value fits in 64 bits are no longer than what it reads. It returns the
value of the digits it reads, which fits, and sets `ERANGE` exactly when it reads no digit or the
whole run does not fit, leaving `*err` as it was otherwise. `my_strtoui` returns that value cast
to `unsigned int`, and sets `ERANGE` besides exactly when the value passes `UINT_MAX`. -/
theorem my_strtoull_longest_fit (s : List UInt8) (err : Int) :
    (myStrtoull s err).2.1 ≤ (s.takeWhile isdigit).length ∧
      (∀ j ≤ (s.takeWhile isdigit).length,
        digitsValue ((s.takeWhile isdigit).take j) ≤ 2 ^ 64 - 1 ↔ j ≤ (myStrtoull s err).2.1) ∧
      (myStrtoull s err).1 = digitsValue ((s.takeWhile isdigit).take (myStrtoull s err).2.1) ∧
      (myStrtoull s err).1 ≤ 2 ^ 64 - 1 ∧
      (myStrtoull s err).2.2 =
        (if (myStrtoull s err).2.1 = 0 ∨ 2 ^ 64 - 1 < digitsValue (s.takeWhile isdigit) then erange
          else err) ∧
      myStrtouiFrom s err = ((myStrtoull s err).1 % 2 ^ 32, (myStrtoull s err).2.1,
        if 2 ^ 32 - 1 < (myStrtoull s err).1 then erange else (myStrtoull s err).2.2) := by
  have h := strtoullGo_spec s 0 (Nat.zero_le _)
  have hfit : (myStrtoull s err).1 ≤ 2 ^ 64 - 1 := by
    rw [show (myStrtoull s err).1 = (strtoullGo 0 s).1 from rfl, h.value_eq]
    exact (h.fits_iff _ h.taken_le).mpr (le_refl _)
  -- `ERANGE` from the loop or from reading nothing
  have herr : ((strtoullGo 0 s).2.2 || decide ((strtoullGo 0 s).2.1 = 0)) = true ↔
      ((strtoullGo 0 s).2.1 = 0 ∨ 2 ^ 64 - 1 < digitsValue (s.takeWhile isdigit)) := by
    rw [Bool.or_eq_true, h.overflow_iff_lt, decide_eq_true_iff, or_comm]
    rfl
  exact ⟨h.taken_le, h.fits_iff, h.value_eq, hfit, if_congr herr rfl rfl, rfl⟩

/-- At the 20-digit boundary: `ULLONG_MAX` is read whole, `ULLONG_MAX + 1` stops before its last
digit on `ERANGE`. -/
example : myStrtoull [49, 56, 52, 52, 54, 55, 52, 52, 48, 55, 51, 55, 48, 57, 53, 53, 49, 54, 49, 53]
      0 = (2 ^ 64 - 1, 20, 0) ∧
    myStrtoull [49, 56, 52, 52, 54, 55, 52, 52, 48, 55, 51, 55, 48, 57, 53, 53, 49, 54, 49, 54]
      0 = (1844674407370955161, 19, erange) := by
  decide

end MariadbConnector
