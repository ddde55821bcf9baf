import Mathlib

/-! Little-endian byte encodings of fixed width: naturals as `w` bytes, least significant
first, and integers in two's complement over the same bytes; and the length-encoded integers of
the client/server protocol built on them. -/
namespace LittleEndian

/-- The `w` little-endian bytes of `n`; bits above `8 * w` are dropped. -/
def leBytes : Nat → Nat → List UInt8
  | 0, _ => []
  | w + 1, n => UInt8.ofNat (n % 256) :: leBytes w (n / 256)

/-- The natural number with the given little-endian bytes. -/
def leValue : List UInt8 → Nat
  | [] => 0
  | b :: bs => b.toNat + 256 * leValue bs

/-- The two's-complement reading of a `w`-byte value. -/
def toSigned (w n : Nat) : Int := if n < 2 ^ (8 * w - 1) then n else (n : Int) - 2 ^ (8 * w)

/-- The `w`-byte two's-complement encoding of `v`. -/
def encodeInt (w : Nat) (v : Int) : List UInt8 := leBytes w (v % 2 ^ (8 * w)).toNat

/-- The length-encoded integer of `n`: one byte below `251`, else the marker `252`, `253` or
`254` and `n` in two, three or eight bytes. -/
def lenenc (n : Nat) : List UInt8 :=
  if n < 251 then [UInt8.ofNat n]
  else if n < 2 ^ 16 then 252 :: leBytes 2 n
  else if n < 2 ^ 24 then 253 :: leBytes 3 n
  else 254 :: leBytes 8 n

@[simp] theorem length_leBytes (w n : Nat) : (leBytes w n).length = w := by
  induction w generalizing n with
  | zero => rfl
  | succ w ih => simp [leBytes, ih]

@[simp] theorem length_encodeInt (w : Nat) (v : Int) : (encodeInt w v).length = w := by
  simp [encodeInt]

theorem leValue_leBytes (w n : Nat) : leValue (leBytes w n) = n % 256 ^ w := by
  induction w generalizing n with
  | zero => simp [leBytes, leValue, Nat.mod_one]
  | succ w ih =>
    have h : n % 256 % 2 ^ 8 = n % 256 := Nat.mod_eq_of_lt (by omega)
    rw [leBytes, leValue, ih, UInt8.toNat_ofNat', h, pow_succ', Nat.mod_mul]

theorem leValue_lt (l : List UInt8) : leValue l < 256 ^ l.length := by
  induction l with
  | nil => simp [leValue]
  | cons b bs ih =>
    have hb : b.toNat < 256 := b.toNat_lt
    rw [leValue, List.length_cons, pow_succ]
    omega

theorem leValue_append (l₁ l₂ : List UInt8) :
    leValue (l₁ ++ l₂) = leValue l₁ + 256 ^ l₁.length * leValue l₂ := by
  induction l₁ with
  | nil => simp [leValue]
  | cons b bs ih =>
    rw [List.cons_append, leValue, leValue, ih, List.length_cons, pow_succ]
    ring

theorem cast_pow_two (k : Nat) : (((2 : Nat) ^ k : Nat) : Int) = (2 : Int) ^ k := by
  push_cast
  rfl

theorem cast_pow_256 (w : Nat) : (((256 : Nat) ^ w : Nat) : Int) = (2 : Int) ^ (8 * w) := by
  push_cast
  rw [pow_mul]
  norm_num

theorem leValue_encodeInt_of_nonneg {w : Nat} {v : Int} (h0 : 0 ≤ v) (hv : v < 2 ^ (8 * w)) :
    (leValue (encodeInt w v) : Int) = v := by
  have hmod : v % 2 ^ (8 * w) = v := Int.emod_eq_of_lt h0 hv
  have hlt : v.toNat < 256 ^ w := by
    have : (v.toNat : Int) < ((256 ^ w : Nat) : Int) := by
      rw [cast_pow_256, Int.toNat_of_nonneg h0]
      exact hv
    exact_mod_cast this
  rw [encodeInt, hmod, leValue_leBytes, Nat.mod_eq_of_lt hlt, Int.toNat_of_nonneg h0]

theorem leValue_encodeInt (w : Nat) (v : Int) :
    (leValue (encodeInt w v) : Int) = v % 2 ^ (8 * w) := by
  have hpos : (0 : Int) < 2 ^ (8 * w) := by positivity
  have hm0 : 0 ≤ v % 2 ^ (8 * w) := Int.emod_nonneg _ hpos.ne'
  have he : encodeInt w (v % 2 ^ (8 * w)) = encodeInt w v := by
    rw [encodeInt, encodeInt, Int.emod_emod]
  rw [← he]
  exact leValue_encodeInt_of_nonneg hm0 (Int.emod_lt_of_pos _ hpos)

theorem toSigned_encodeInt {w : Nat} (hw : 0 < w) {v : Int} (hlo : -2 ^ (8 * w - 1) ≤ v)
    (hhi : v < 2 ^ (8 * w - 1)) : toSigned w (leValue (encodeInt w v)) = v := by
  have hsplit : (2 : Int) ^ (8 * w) = 2 * 2 ^ (8 * w - 1) := by
    rw [← pow_succ']
    congr 1
    omega
  have hhalf := cast_pow_two (8 * w - 1)
  have hval := leValue_encodeInt w v
  unfold toSigned
  rcases le_or_gt 0 v with hv | hv
  · -- non-negative: the value is its own remainder, in the lower half
    have hmv : v % 2 ^ (8 * w) = v := Int.emod_eq_of_lt hv (by omega)
    have hlt : leValue (encodeInt w v) < 2 ^ (8 * w - 1) := by
      have : (leValue (encodeInt w v) : Int) < ((2 ^ (8 * w - 1) : Nat) : Int) := by omega
      exact_mod_cast this
    rw [if_pos hlt]
    omega
  · -- negative: the remainder is `v + 2 ^ (8 * w)`, in the upper half
    have hmv : v % 2 ^ (8 * w) = v + 2 ^ (8 * w) := by
      rw [Int.emod_eq_add_self_emod, Int.emod_eq_of_lt (by omega) (by omega)]
    have hge : ¬ leValue (encodeInt w v) < 2 ^ (8 * w - 1) := by
      intro hlt
      have : (leValue (encodeInt w v) : Int) < ((2 ^ (8 * w - 1) : Nat) : Int) := by
        exact_mod_cast hlt
      omega
    rw [if_neg hge]
    omega

theorem leBytes_mod (w n : Nat) : leBytes w (n % 256 ^ w) = leBytes w n := by
  induction w generalizing n with
  | zero => rfl
  | succ w ih =>
    have h1 : n % 256 ^ (w + 1) % 256 = n % 256 := by
      rw [pow_succ', Nat.mod_mul_right_mod]
    have h2 : n % 256 ^ (w + 1) / 256 = n / 256 % 256 ^ w := by
      rw [pow_succ', Nat.mod_mul_right_div_self]
    rw [leBytes, leBytes, h1, h2, ih]

theorem take_leBytes {k w : Nat} (hk : k ≤ w) (n : Nat) : (leBytes w n).take k = leBytes k n := by
  induction k generalizing w n with
  | zero => simp [leBytes]
  | succ k ih =>
    obtain ⟨w, rfl⟩ : ∃ w', w = w' + 1 := ⟨w - 1, by omega⟩
    rw [leBytes, leBytes, List.take_succ_cons, ih (by omega)]

theorem take_encodeInt {k w : Nat} (hk : k ≤ w) (v : Int) :
    (encodeInt w v).take k = encodeInt k v := by
  have hdvd : (2 : Int) ^ (8 * k) ∣ 2 ^ (8 * w) := pow_dvd_pow 2 (by omega)
  have hpos : (0 : Int) < 2 ^ (8 * w) := by positivity
  have hcast : (((v % 2 ^ (8 * w)).toNat % 256 ^ k : Nat) : Int) = v % 2 ^ (8 * k) := by
    rw [Int.natCast_mod, Int.toNat_of_nonneg (Int.emod_nonneg _ hpos.ne'), cast_pow_256,
      Int.emod_emod_of_dvd _ hdvd]
  have hk' : (v % 2 ^ (8 * w)).toNat % 256 ^ k = (v % 2 ^ (8 * k)).toNat := by
    omega
  rw [encodeInt, encodeInt, take_leBytes hk, ← leBytes_mod, hk']

theorem drop_leBytes (k w n : Nat) : (leBytes w n).drop k = leBytes (w - k) (n / 256 ^ k) := by
  induction k generalizing w n with
  | zero => simp
  | succ k ih =>
    cases w with
    | zero => simp [leBytes]
    | succ w =>
      rw [leBytes, List.drop_succ_cons, ih, Nat.div_div_eq_div_mul, ← pow_succ',
        Nat.add_sub_add_right]

/-! ### Byte images: loads and stores of bytes at an offset -/

/-- The `w` bytes at `offset`. -/
def load (mem : List UInt8) (offset w : Nat) : List UInt8 := (mem.drop offset).take w

/-- The image with `bytes` written from `offset` on. -/
def store (mem : List UInt8) (offset : Nat) (bytes : List UInt8) : List UInt8 :=
  mem.take offset ++ bytes ++ mem.drop (offset + bytes.length)

theorem length_load {mem : List UInt8} {offset w : Nat} (h : offset + w ≤ mem.length) :
    (load mem offset w).length = w := by
  simp only [load, List.length_take, List.length_drop]
  omega

theorem length_store {mem bytes : List UInt8} {offset : Nat}
    (h : offset + bytes.length ≤ mem.length) : (store mem offset bytes).length = mem.length := by
  simp only [store, List.length_append, List.length_take, List.length_drop]
  omega

theorem load_add (mem : List UInt8) (offset a b : Nat) :
    load mem offset (a + b) = load mem offset a ++ load mem (offset + a) b := by
  rw [load, List.take_add, List.drop_drop, load, load]

/-- A load from inside a store reads the stored bytes from there on, then the image's own bytes
past them. -/
theorem load_store (mem : List UInt8) (offset : Nat) (bytes : List UInt8) {k : Nat}
    (hoff : offset ≤ mem.length) (hk : k ≤ bytes.length) (w : Nat) :
    load (store mem offset bytes) (offset + k) w =
      (bytes.drop k).take w ++ load mem (offset + bytes.length) (w - (bytes.length - k)) := by
  have htake : (mem.take offset).length = offset := by
    rw [List.length_take]
    omega
  have hdrop : (store mem offset bytes).drop (offset + k) =
      bytes.drop k ++ mem.drop (offset + bytes.length) := by
    rw [store, List.append_assoc, List.drop_append, htake, List.drop_eq_nil_of_le (by omega),
      List.nil_append, Nat.add_sub_cancel_left, List.drop_append_of_le_length hk]
  rw [load, hdrop, List.take_append, List.length_drop, load]

theorem load_store_of_le (mem : List UInt8) (offset : Nat) (bytes : List UInt8) {o w : Nat}
    (hoff : offset ≤ mem.length) (h : o + w ≤ offset) :
    load (store mem offset bytes) o w = load mem o w := by
  have htake : o ≤ (mem.take offset).length := by
    rw [List.length_take]
    omega
  rw [load, store, List.append_assoc, List.drop_append_of_le_length htake,
    List.take_append_of_le_length (by simp; omega), List.drop_take, List.take_take,
    Nat.min_eq_left (by omega), load]

theorem load_store_start (mem : List UInt8) (offset : Nat) (bytes : List UInt8)
    (hoff : offset ≤ mem.length) (w : Nat) :
    load (store mem offset bytes) offset w =
      bytes.take w ++ load mem (offset + bytes.length) (w - bytes.length) := by
  simpa using load_store mem offset bytes hoff (Nat.zero_le bytes.length) w

theorem leValue_load_lt (mem : List UInt8) (offset w : Nat) :
    leValue (load mem offset w) < 256 ^ w :=
  lt_of_lt_of_le (leValue_lt _) (Nat.pow_le_pow_right (by norm_num) (List.length_take_le _ _))

theorem leValue_load_add (mem : List UInt8) (offset a : Nat) (h : offset + a ≤ mem.length)
    (b : Nat) :
    leValue (load mem offset (a + b)) =
      leValue (load mem offset a) + 256 ^ a * leValue (load mem (offset + a) b) := by
  rw [load_add, leValue_append, length_load h]

end LittleEndian
