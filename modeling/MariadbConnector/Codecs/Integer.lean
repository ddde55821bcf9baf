import MariadbConnector.Codecs.Types

/-! The integer branches of the two result decoders, `field_fetch_callback` on the binary
protocol and `field_fetch_fromtext` on the text protocol, against what the server sends for a
value of an integer column. -/
namespace MariadbConnector

open CString LittleEndian Decimal

/-! ### The binary protocol -/

/-- `uint<w>korr(row)`. -/
def uintKorr (w : Nat) (row : List UInt8) : Int := leValue (row.take w)

/-- `sint<w>korr(row)`. -/
def sintKorr (w : Nat) (row : List UInt8) : Int := toSigned w (leValue (row.take w))

/-- The branches for SHORT, YEAR, INT24 and LONG: `uint<w>korr` under `UNSIGNED_FLAG`, else
`sint<w>korr`. -/
def korrValue (w : Nat) (unsigned : Bool) (row : List UInt8) : Int :=
  if unsigned then uintKorr w row else sintKorr w row

/-- The integer branches of `field_fetch_callback`: the Python int and how far `*row` moves. -/
def fetchBinaryInt (type : FieldType) (unsigned : Bool) (row : List UInt8) : Option (Int × Nat) :=
  match type with
  | .tiny =>
    -- `*row[0]` is an `unsigned char` in both branches
    some (if unsigned then (row.getD 0 0).toNat else (row.getD 0 0).toNat, 1)
  | .short | .year => some (korrValue 2 unsigned row, 2)
  | .int24 => some (korrValue 3 unsigned row, 4)
  | .long => some (korrValue 4 unsigned row, 4)
  | .longlong =>
    let l := sintKorr 8 row
    some (if unsigned then l % 2 ^ 64 else l, 8)
  | _ => none

/-- The bytes the server sends for a value of an integer type; INT24 travels in four. -/
def sendWidth : FieldType → Nat
  | .tiny => 1
  | .short | .year => 2
  | .int24 | .long => 4
  | _ => 8

/-- The bits of an integer type's values. -/
def valueBits : FieldType → Nat
  | .tiny => 8
  | .short | .year => 16
  | .int24 => 24
  | .long => 32
  | _ => 64

/-- An integer column as the result metadata describes it. `ZEROFILL` columns are unsigned. -/
structure IntColumn where
  type : FieldType
  unsigned : Bool
  zerofill : Bool
  /-- The display width, `M` in `INT(M)`. -/
  width : Nat
  isInt : type ∈ [.tiny, .short, .year, .int24, .long, .longlong]
  zerofill_unsigned : zerofill = true → unsigned = true

/-- The values a column of this type holds: the signed or unsigned range of its bits, and the
years `0` to `2155` for YEAR. -/
def IntColumn.InRange (c : IntColumn) (v : Int) : Prop :=
  if c.type = .year then 0 ≤ v ∧ v ≤ 2155
  else if c.unsigned then 0 ≤ v ∧ v < 2 ^ valueBits c.type
  else -2 ^ (valueBits c.type - 1) ≤ v ∧ v < 2 ^ (valueBits c.type - 1)

/-- The binary-protocol bytes of `v`: two's complement, little-endian, `sendWidth` bytes. -/
def packInt (type : FieldType) (v : Int) : List UInt8 := encodeInt (sendWidth type) v

/-! ### The text protocol -/

/-- An optional sign before the digits. -/
def splitSign : List UInt8 → Bool × List UInt8
  | 45 :: ds => (true, ds)
  | 43 :: ds => (false, ds)
  | ds => (false, ds)

/-- `PyLong_FromString(p, NULL, 0)` on a sign and a decimal digit run: base `0` takes a leading
`0` only in a run of zeros. -/
def pyLongFromString (s : List UInt8) : Option Int :=
  let ds := (splitSign s).2
  if ds = [] ∨ ds.all isdigit = false then none
  else if ds.head? = some 48 ∧ ds.all (· == 48) = false then none
  else some (if (splitSign s).1 then -(digitsValue ds : Int) else digitsValue ds)

/-- The integer branch of `field_fetch_fromtext`: leading zeros are stripped from a text
longer than one byte (CONPY-258), then `PyLong_FromString`. -/
def fetchTextInt (data : List UInt8) : Option Int :=
  pyLongFromString (if 1 < data.length then data.dropWhile (· == 48) else data)

/-- The server's decimal rendering of an integer. -/
def renderInt (v : Int) : List UInt8 :=
  if v < 0 then 45 :: digits v.natAbs else digits v.toNat

/-- The text the server sends: four digits for YEAR, the display width padded with zeros for
ZEROFILL, else the plain rendering. -/
def serverText (c : IntColumn) (v : Int) : List UInt8 :=
  if c.type = .year then padded 4 v.toNat
  else if c.zerofill then padded c.width v.toNat
  else renderInt v

/-! ### The binary decoder against the server's bytes -/

theorem leValue_take_packed {w W : Nat} (hw : w ≤ W) (v : Int) (rest : List UInt8) :
    (leValue ((encodeInt W v ++ rest).take w) : Int) = v % 2 ^ (8 * w) := by
  rw [List.take_append_of_le_length (by simpa using hw), take_encodeInt hw, leValue_encodeInt]

theorem korrValue_packed {w W : Nat} (hw0 : 0 < w) (hw : w ≤ W) {unsigned : Bool} {v : Int}
    (hv : if unsigned then 0 ≤ v ∧ v < 2 ^ (8 * w)
      else -2 ^ (8 * w - 1) ≤ v ∧ v < 2 ^ (8 * w - 1)) (rest : List UInt8) :
    korrValue w unsigned (encodeInt W v ++ rest) = v := by
  unfold korrValue uintKorr sintKorr
  cases unsigned with
  | true =>
    simp only [if_true] at hv ⊢
    rw [leValue_take_packed hw]
    exact Int.emod_eq_of_lt hv.1 hv.2
  | false =>
    simp only [Bool.false_eq_true, if_false] at hv ⊢
    rw [List.take_append_of_le_length (by simpa using hw), take_encodeInt hw]
    exact toSigned_encodeInt hw0 hv.1 hv.2

theorem toSigned_emod (w n : Nat) : toSigned w n % 2 ^ (8 * w) = (n : Int) % 2 ^ (8 * w) := by
  unfold toSigned
  split_ifs
  · rfl
  · exact Int.sub_emod_right _ _

theorem fetchBinaryInt_packInt {c : IntColumn} {v : Int} (hv : c.InRange v)
    (hne : c.type ≠ .tiny ∨ c.unsigned = true) (rest : List UInt8) :
    fetchBinaryInt c.type c.unsigned (packInt c.type v ++ rest) = some (v, sendWidth c.type) := by
  obtain ⟨type, unsigned, zerofill, width, hint, hz⟩ := c
  simp only [IntColumn.InRange] at hv hne ⊢
  simp only [List.mem_cons, List.not_mem_nil, or_false] at hint
  rcases hint with rfl | rfl | rfl | rfl | rfl | rfl
  · -- TINY, unsigned: the byte is the value
    simp only [ne_eq, not_true_eq_false, false_or] at hne
    subst hne
    simp only [reduceCtorEq, if_false, if_true, valueBits] at hv
    have hval := leValue_take_packed (w := 1) (W := 1) le_rfl v rest
    rw [Int.emod_eq_of_lt hv.1 (by simpa using hv.2)] at hval
    simp only [fetchBinaryInt, packInt, sendWidth, if_true, Option.some.injEq, Prod.mk.injEq,
      and_true]
    obtain ⟨b, hb⟩ : ∃ b, encodeInt 1 v = [b] := ⟨_, rfl⟩
    rw [hb] at hval ⊢
    simpa [leValue] using hval
  · simp only [reduceCtorEq, if_false, valueBits] at hv
    simp only [fetchBinaryInt, packInt, sendWidth]
    rw [korrValue_packed (by norm_num) le_rfl (by cases unsigned <;> simpa using hv)]
  · simp only [if_true] at hv
    simp only [fetchBinaryInt, packInt, sendWidth]
    rw [korrValue_packed (by norm_num) le_rfl (by cases unsigned <;> simp <;> omega)]
  · simp only [reduceCtorEq, if_false, valueBits] at hv
    simp only [fetchBinaryInt, packInt, sendWidth]
    rw [korrValue_packed (by norm_num) (by norm_num) (by cases unsigned <;> simpa using hv)]
  · simp only [reduceCtorEq, if_false, valueBits] at hv
    simp only [fetchBinaryInt, packInt, sendWidth]
    rw [korrValue_packed (by norm_num) le_rfl (by cases unsigned <;> simpa using hv)]
  · -- LONGLONG: read signed, then cast to `unsigned long long` under the flag
    simp only [reduceCtorEq, if_false, valueBits] at hv
    simp only [fetchBinaryInt, packInt, sendWidth, Option.some.injEq, Prod.mk.injEq, and_true]
    cases unsigned with
    | false =>
      have hs : korrValue 8 false (encodeInt 8 v ++ rest) = v :=
        korrValue_packed (by norm_num) le_rfl (by simpa using hv) rest
      simpa [korrValue] using hs
    | true =>
      simp only [if_true]
      unfold sintKorr
      rw [toSigned_emod, leValue_take_packed le_rfl]
      simp only [if_true] at hv
      rw [Int.emod_emod]
      exact Int.emod_eq_of_lt hv.1 hv.2

theorem fetchBinaryInt_tiny_signed {v : Int} (hlo : -128 ≤ v) (hneg : v < 0)
    (rest : List UInt8) :
    fetchBinaryInt .tiny false (packInt .tiny v ++ rest) = some (v + 256, 1) := by
  have hval := leValue_take_packed (w := 1) (W := 1) le_rfl v rest
  have hmod : v % 2 ^ 8 = v + 256 := by
    rw [Int.emod_eq_add_self_emod, Int.emod_eq_of_lt (by omega) (by omega)]
    norm_num
  rw [show 8 * 1 = 8 from rfl, hmod] at hval
  simp only [fetchBinaryInt, packInt, sendWidth, Bool.false_eq_true, if_false,
    Option.some.injEq, Prod.mk.injEq, and_true]
  obtain ⟨b, hb⟩ : ∃ b, encodeInt 1 v = [b] := ⟨_, rfl⟩
  rw [hb] at hval ⊢
  simpa [leValue] using hval

/-! ### The text decoder against the server's renderings -/

theorem splitSign_of_isdigit {b : UInt8} (hb : isdigit b = true) (l : List UInt8) :
    splitSign (b :: l) = (false, b :: l) := by
  have h45 : b ≠ 45 := by rintro rfl; simp [isdigit] at hb
  have h43 : b ≠ 43 := by rintro rfl; simp [isdigit] at hb
  unfold splitSign
  split <;> simp_all

theorem all_isdigit_digits (n : Nat) : (digits n).all isdigit = true :=
  List.all_eq_true.mpr fun _ hb => isdigit_of_mem_digits hb

theorem pyLongFromString_digits (n : Nat) : pyLongFromString (digits n) = some (n : Int) := by
  obtain ⟨b, l, hbl⟩ := List.exists_cons_of_ne_nil (digits_ne_nil n)
  have hb : isdigit b = true := isdigit_of_mem_digits (hbl ▸ List.mem_cons_self)
  have hsplit : splitSign (digits n) = (false, digits n) := by
    rw [hbl]
    exact splitSign_of_isdigit hb l
  have h1 : ¬ (digits n = [] ∨ (digits n).all isdigit = false) := by
    simp [digits_ne_nil, all_isdigit_digits]
  -- a leading `0` is the whole rendering of `0`
  have h2 : ¬ ((digits n).head? = some 48 ∧ (digits n).all (· == 48) = false) := by
    rintro ⟨hhead, hall⟩
    by_cases hn : n = 0
    · subst hn
      exact absurd hall (by decide)
    · exact head_digits_ne_zero hn hhead
  unfold pyLongFromString
  rw [hsplit]
  dsimp only
  rw [if_neg h1, if_neg h2]
  simp

theorem pyLongFromString_neg_digits {n : Nat} (hn : n ≠ 0) :
    pyLongFromString (45 :: digits n) = some (-(n : Int)) := by
  have h1 : ¬ (digits n = [] ∨ (digits n).all isdigit = false) := by
    simp [digits_ne_nil, all_isdigit_digits]
  have h2 : ¬ ((digits n).head? = some 48 ∧ (digits n).all (· == 48) = false) :=
    fun h => head_digits_ne_zero hn h.1
  unfold pyLongFromString
  have hsplit : splitSign (45 :: digits n) = (true, digits n) := rfl
  rw [hsplit]
  dsimp only
  rw [if_neg h1, if_neg h2]
  simp

theorem dropWhile_replicate_append (k : Nat) (l : List UInt8) :
    (List.replicate k 48 ++ l).dropWhile (· == 48) = l.dropWhile (· == 48) := by
  induction k with
  | zero => rfl
  | succ k ih => simp [List.replicate_succ, ih]

theorem dropWhile_digits {n : Nat} (hn : n ≠ 0) : (digits n).dropWhile (· == 48) = digits n := by
  obtain ⟨b, l, hbl⟩ := List.exists_cons_of_ne_nil (digits_ne_nil n)
  have hb : b ≠ 48 := fun h => head_digits_ne_zero hn (by rw [hbl, h]; rfl)
  rw [hbl, List.dropWhile_cons_of_neg (by simpa using hb)]

theorem fetchTextInt_renderInt (v : Int) : fetchTextInt (renderInt v) = some v := by
  unfold fetchTextInt renderInt
  split_ifs with hneg hlen hlen
  · rw [List.dropWhile_cons_of_neg (by decide), pyLongFromString_neg_digits (by omega)]
    congr 1
    omega
  · exact absurd (by simpa using hlen) (digits_ne_nil v.natAbs)
  · have hv : v ≠ 0 := by
      rintro rfl
      simp [digits] at hlen
    rw [dropWhile_digits (by omega), pyLongFromString_digits, Int.toNat_of_nonneg (by omega)]
  · rw [pyLongFromString_digits, Int.toNat_of_nonneg (by omega)]

theorem fetchTextInt_padded {n : Nat} (hn : n ≠ 0) (width : Nat) :
    fetchTextInt (padded width n) = some (n : Int) := by
  unfold fetchTextInt padded
  split_ifs
  · rw [dropWhile_replicate_append, dropWhile_digits hn, pyLongFromString_digits]
  · -- a single byte: no padding at all
    have hk : width - (digits n).length = 0 := by
      have := List.length_pos_of_ne_nil (digits_ne_nil n)
      simp only [List.length_append, List.length_replicate] at *
      omega
    rw [hk, List.replicate_zero, List.nil_append, pyLongFromString_digits]

/-- A zero padded to two or more digits is stripped to nothing, which `PyLong_FromString`
rejects. -/
theorem fetchTextInt_padded_zero {width : Nat} (hw : 2 ≤ width) :
    fetchTextInt (padded width 0) = none := by
  have hd : digits 0 = [48] := rfl
  unfold fetchTextInt padded
  rw [hd, if_pos (by simp; omega), dropWhile_replicate_append]
  rfl

theorem IntColumn.nonneg_of_padded {c : IntColumn} {v : Int} (hv : c.InRange v)
    (hp : c.type = .year ∨ c.zerofill = true) : 0 ≤ v := by
  unfold IntColumn.InRange at hv
  split_ifs at hv with hy hu
  · exact hv.1
  · exact hv.1
  · rcases hp with hp | hp
    · exact absurd hp hy
    · exact absurd (c.zerofill_unsigned hp) hu

/-- Every value of an integer column but the zero of a YEAR or ZEROFILL column is read back
from the server's text. -/
theorem fetchTextInt_serverText {c : IntColumn} {v : Int} (hv : c.InRange v)
    (hv0 : v ≠ 0 ∨ (c.type ≠ .year ∧ c.zerofill = false)) :
    fetchTextInt (serverText c v) = some v := by
  unfold serverText
  split_ifs with hy hz
  · have h0 := c.nonneg_of_padded hv (.inl hy)
    have hne : v ≠ 0 := hv0.resolve_right fun h => h.1 hy
    rw [fetchTextInt_padded (by omega), Int.toNat_of_nonneg h0]
  · have h0 := c.nonneg_of_padded hv (.inr hz)
    have hne : v ≠ 0 := hv0.resolve_right fun h => by simp [hz] at h
    rw [fetchTextInt_padded (by omega), Int.toNat_of_nonneg h0]
  · exact fetchTextInt_renderInt v

/-- **The integer decoders read back what the server sends**, but where
`fetch_integer_divergence` shows they do not: the binary protocol every value of a column other
than a signed TINY, whatever follows it in the row, and the text protocol every value but the
zero of a YEAR or a ZEROFILL column. -/
theorem integer_columns_read_back {c : IntColumn} {v : Int} (hv : c.InRange v) :
    ((c.type ≠ .tiny ∨ c.unsigned = true) → ∀ rest,
        fetchBinaryInt c.type c.unsigned (packInt c.type v ++ rest) = some (v, sendWidth c.type)) ∧
      ((v ≠ 0 ∨ (c.type ≠ .year ∧ c.zerofill = false)) →
        fetchTextInt (serverText c v) = some v) :=
  ⟨fun hne rest => fetchBinaryInt_packInt hv hne rest, fetchTextInt_serverText hv⟩

/-- A signed `INT(11)` column holding `-5`. -/
theorem int_column_minus_five_read_back :
    let c : IntColumn := ⟨.long, false, false, 11, by decide, by simp⟩
    c.InRange (-5) ∧
      ((c.type ≠ .tiny ∨ c.unsigned = true) → ∀ rest,
          fetchBinaryInt c.type c.unsigned (packInt c.type (-5) ++ rest) =
            some (-5, sendWidth c.type)) ∧
        ((-5 ≠ 0 ∨ (c.type ≠ .year ∧ c.zerofill = false)) →
          fetchTextInt (serverText c (-5)) = some (-5)) := by
  intro c
  have hv : c.InRange (-5) := by simp [c, IntColumn.InRange, valueBits]
  exact ⟨hv, integer_columns_read_back hv⟩

/-- The two decoders do not both read back every value: signed TINY `-1` comes back from the
binary protocol as `255`, and the zero of a ZEROFILL column or of a YEAR column comes back from
the text protocol as no value at all. -/
theorem fetch_integer_divergence :
    fetchBinaryInt .tiny false (packInt .tiny (-1)) = some (255, 1) ∧
    fetchTextInt (serverText ⟨.long, true, true, 9, by decide, fun _ => rfl⟩ 0) = none ∧
    fetchTextInt (serverText ⟨.year, true, true, 4, by decide, fun _ => rfl⟩ 0) = none := by
  refine ⟨?_, ?_, ?_⟩
  · simpa using fetchBinaryInt_tiny_signed (v := -1) (by norm_num) (by norm_num) []
  · exact fetchTextInt_padded_zero (by norm_num)
  · exact fetchTextInt_padded_zero (by norm_num)

end MariadbConnector
