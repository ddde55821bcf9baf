import MariadbConnector.Codecs.Temporal

/-! `timedelta` parameters and TIME results: `mariadb_pydelta_to_tm` and `Mrdb_GetTimeDelta`,
inverse below 839 hours, and the `int` overflow of the first from `24856` days on. -/

namespace MariadbConnector

/-- `datetime.timedelta` as CPython stores it (`PyDateTime_Delta`): whole days, then seconds
and microseconds normalised below a day and a second. -/
structure Timedelta where
  days : Int
  seconds : Nat
  microseconds : Nat
  days_le : days.natAbs ≤ 999999999
  seconds_lt : seconds < 86400
  microseconds_lt : microseconds < 1000000

/-- The delta in microseconds. -/
def Timedelta.micros (d : Timedelta) : Int :=
  (d.days * 86400 + d.seconds) * 1000000 + d.microseconds

/-- Signed `int` arithmetic as it is compiled: two's complement on 32 bits. Wrapping once at
the end of a sum of products equals wrapping after each operation. -/
def wrapInt (x : Int) : Int := (x + 2 ^ 31) % 2 ^ 32 - 2 ^ 31

/-- The `int` `total_seconds= abs(days * 3600 * 24 + seconds)` and the microseconds, after the
borrow a negative delta with microseconds takes from its seconds. -/
def Timedelta.split (d : Timedelta) : Int × Nat :=
  let total := wrapInt (wrapInt (d.days * 3600 * 24 + d.seconds)).natAbs
  if d.microseconds ≠ 0 ∧ d.days < 0 then (wrapInt (total - 1), 1000000 - d.microseconds)
  else (total, d.microseconds)

/-- `tm->hour= total_seconds / 3600; remain= total_seconds % 3600; tm->minute= remain / 60;
tm->second= remain % 60;`: C division, each result stored in an `unsigned int`. -/
def hms (total : Int) : Nat × Nat × Nat :=
  let remain := total.tmod 3600
  ((total.tdiv 3600 % 2 ^ 32).toNat, (remain.tdiv 60 % 2 ^ 32).toNat,
    (remain.tmod 60 % 2 ^ 32).toNat)

/-- `mariadb_pydelta_to_tm`: the zeroed `MYSQL_TIME` with the sign of the days, the hours,
minutes and seconds of `total_seconds`, and the microseconds. -/
def pydeltaToTm (d : Timedelta) : MysqlTime :=
  let r := d.split
  let t := hms r.1
  { MysqlTime.zero with
    hour := t.1
    minute := t.2.1
    second := t.2.2
    secondPart := r.2
    neg := decide (d.days < 0) }

/-- The signed microseconds a `MYSQL_TIME` of type TIME stands for. -/
def MysqlTime.timeMicros (tm : MysqlTime) : Int :=
  (if tm.neg then -1 else 1) *
    (((tm.hour * 3600 + tm.minute * 60 + tm.second) * 1000000 + tm.secondPart : Nat) : Int)

/-! ### `Mrdb_GetTimeDelta` -/

theorem pyDeltaFromDSU_eq {days seconds us x : Int} (h : (days * 86400 + seconds) * 1000000 + us = x) :
    pyDeltaFromDSU days seconds us = pyDeltaFromDSU 0 0 x := by
  simp only [pyDeltaFromDSU, h]
  simp

theorem pyDeltaFromDSU_of_lt {x : Int} (h : x.natAbs < 86400000000 * 999999999) :
    pyDeltaFromDSU 0 0 x = .delta x := by
  have hlo : ¬x / 86400000000 < -999999999 := by omega
  have hhi : ¬999999999 < x / 86400000000 := by omega
  simp [pyDeltaFromDSU, hlo, hhi]

/-- `Mrdb_GetTimeDelta` is the signed value of the time: whole days split off the hours with
C's division and added back as seconds. -/
theorem getTimeDelta_eq (tm : MysqlTime) : getTimeDelta tm = pyDeltaFromDSU 0 0 tm.timeMicros := by
  obtain ⟨year, month, day, hour, minute, second, us, neg, timeType⟩ := tm
  unfold getTimeDelta
  apply pyDeltaFromDSU_eq
  -- the remainder and quotient by 24 recombine to the signed hours
  cases neg with
  | false =>
    have hsplit := Int.tmod_add_tdiv_mul (hour : Int) 24
    simp only [MysqlTime.timeMicros, Bool.false_eq_true, if_false, one_mul]
    push_cast
    omega
  | true =>
    have hsplit := Int.tmod_add_tdiv_mul (-(hour : Int)) 24
    simp only [MysqlTime.timeMicros, if_true, neg_mul, one_mul]
    push_cast
    omega

/-! ### `mariadb_pydelta_to_tm` below `2 ^ 31` seconds -/

/-- The whole seconds of the delta, `days * 86400 + seconds`. -/
def Timedelta.wholeSeconds (d : Timedelta) : Int := d.days * 86400 + d.seconds

theorem Timedelta.micros_neg_iff (d : Timedelta) : d.micros < 0 ↔ d.days < 0 := by
  have := d.seconds_lt
  have := d.microseconds_lt
  unfold Timedelta.micros
  constructor <;> intro h <;> nlinarith

theorem Timedelta.split_of_lt (d : Timedelta) (h : d.wholeSeconds.natAbs < 2 ^ 31) :
    d.split = if d.microseconds ≠ 0 ∧ d.days < 0 then
        ((d.wholeSeconds.natAbs : Int) - 1, 1000000 - d.microseconds)
      else ((d.wholeSeconds.natAbs : Int), d.microseconds) := by
  have hsum : wrapInt (d.days * 3600 * 24 + d.seconds) = d.wholeSeconds := by
    unfold wrapInt Timedelta.wholeSeconds at *
    omega
  have habs : wrapInt (d.wholeSeconds.natAbs : Int) = d.wholeSeconds.natAbs := by
    unfold wrapInt
    omega
  unfold Timedelta.split
  rw [hsum, habs]
  split_ifs with hb
  · -- a negative delta has at least one whole second to borrow from
    have hpos : 1 ≤ d.wholeSeconds.natAbs := by
      have := d.seconds_lt
      unfold Timedelta.wholeSeconds
      omega
    have hw : wrapInt ((d.wholeSeconds.natAbs : Int) - 1) = d.wholeSeconds.natAbs - 1 := by
      unfold wrapInt
      omega
    simp only [hw]
  · rfl

theorem hms_of_nonneg {t : Int} (h0 : 0 ≤ t) (ht : t < 2 ^ 31) :
    (((hms t).1 * 3600 + (hms t).2.1 * 60 + (hms t).2.2 : Nat) : Int) = t ∧ (hms t).2.1 ≤ 59 ∧
      (hms t).2.2 ≤ 59 := by
  have hm0 : 0 ≤ t.tmod 3600 := by rw [Int.tmod_eq_emod_of_nonneg h0]; omega
  simp only [hms]
  rw [Int.tdiv_eq_ediv_of_nonneg h0, Int.tdiv_eq_ediv_of_nonneg hm0,
    Int.tmod_eq_emod_of_nonneg hm0, Int.tmod_eq_emod_of_nonneg h0]
  omega

theorem timeMicros_pydeltaToTm (d : Timedelta) :
    (pydeltaToTm d).timeMicros = (if d.days < 0 then -1 else 1) *
      ((((hms d.split.1).1 * 3600 + (hms d.split.1).2.1 * 60 + (hms d.split.1).2.2) * 1000000 +
        d.split.2 : Nat) : Int) := by
  by_cases hd : d.days < 0 <;> simp [pydeltaToTm, MysqlTime.timeMicros, hd]

/-- **No overflow below `2 ^ 31` seconds.** `mariadb_pydelta_to_tm` then sets the sign of the
delta, minutes and seconds below `60`, microseconds below a second, and hours, minutes, seconds
and microseconds that add up to the magnitude of the delta. -/
theorem pydeltaToTm_of_lt (d : Timedelta) (h : d.wholeSeconds.natAbs < 2 ^ 31) :
    (pydeltaToTm d).neg = decide (d.micros < 0) ∧ (pydeltaToTm d).minute ≤ 59 ∧
      (pydeltaToTm d).second ≤ 59 ∧ (pydeltaToTm d).secondPart ≤ 999999 ∧
      (pydeltaToTm d).timeMicros = d.micros := by
  have hus := d.microseconds_lt
  have hsec := d.seconds_lt
  have hneg : (pydeltaToTm d).neg = decide (d.micros < 0) := by
    simp only [pydeltaToTm, Timedelta.micros_neg_iff]
  have hmin : (pydeltaToTm d).minute = (hms d.split.1).2.1 := rfl
  have hs : (pydeltaToTm d).second = (hms d.split.1).2.2 := rfl
  have hsp : (pydeltaToTm d).secondPart = d.split.2 := rfl
  rw [hmin, hs, hsp, timeMicros_pydeltaToTm, d.split_of_lt h]
  by_cases hb : d.microseconds ≠ 0 ∧ d.days < 0
  · -- the borrow: one second less, and the complement of the microseconds
    rw [if_pos hb, if_pos hb.2]
    dsimp only
    have hpos : 1 ≤ d.wholeSeconds.natAbs := by
      unfold Timedelta.wholeSeconds
      omega
    obtain ⟨hsum, hm, hsc⟩ :=
      hms_of_nonneg (t := (d.wholeSeconds.natAbs : Int) - 1) (by omega) (by omega)
    refine ⟨hneg, hm, hsc, by omega, ?_⟩
    simp only [Nat.cast_add, Nat.cast_mul, Nat.cast_ofNat, Nat.cast_sub hus.le] at hsum ⊢
    unfold Timedelta.micros Timedelta.wholeSeconds at *
    omega
  · rw [if_neg hb]
    dsimp only
    obtain ⟨hsum, hm, hsc⟩ := hms_of_nonneg (t := (d.wholeSeconds.natAbs : Int)) (by omega)
      (by omega)
    refine ⟨hneg, hm, hsc, by omega, ?_⟩
    simp only [Nat.cast_add, Nat.cast_mul, Nat.cast_ofNat] at hsum ⊢
    unfold Timedelta.micros Timedelta.wholeSeconds at *
    -- without a borrow the delta is non-negative or has no microseconds
    by_cases hd : d.days < 0
    · rw [if_pos hd]
      omega
    · rw [if_neg hd]
      omega

/-- **TIME round trip.** A `timedelta` of less than 839 hours in magnitude, sent as a TIME
parameter and read back, is the same `timedelta`. -/
theorem getTimeDelta_pydeltaToTm (d : Timedelta) (h : d.micros.natAbs < 839 * 3600 * 1000000) :
    getTimeDelta (pydeltaToTm d) = .delta d.micros := by
  have hw : d.wholeSeconds.natAbs < 2 ^ 31 := by
    have := d.microseconds_lt
    unfold Timedelta.micros at h
    unfold Timedelta.wholeSeconds
    omega
  rw [getTimeDelta_eq, (pydeltaToTm_of_lt d hw).2.2.2.2, pyDeltaFromDSU_of_lt (by omega)]

/-- `timedelta(hours=-1, microseconds=5)`, stored as `-1` day, `82800` seconds and `5`
microseconds, comes back whole. -/
theorem getTimeDelta_minus_hour :
    (Timedelta.micros ⟨-1, 82800, 5, by norm_num, by norm_num, by norm_num⟩).natAbs <
        839 * 3600 * 1000000 ∧
      getTimeDelta (pydeltaToTm ⟨-1, 82800, 5, by norm_num, by norm_num, by norm_num⟩) =
        .delta (Timedelta.micros ⟨-1, 82800, 5, by norm_num, by norm_num, by norm_num⟩) := by
  have h : (Timedelta.micros ⟨-1, 82800, 5, by norm_num, by norm_num, by norm_num⟩).natAbs <
      839 * 3600 * 1000000 := by
    simp [Timedelta.micros]
  exact ⟨h, getTimeDelta_pydeltaToTm _ h⟩

/-! ### From `24856` days on -/

/-- `timedelta(days=24856)`: `24856 * 3600 * 24` exceeds `INT_MAX`, and the `MYSQL_TIME` holds
`596502:28:16` where the delta is `596544` hours, so the TIME read back is another delta. -/
theorem pydelta_overflow :
    pydeltaToTm ⟨24856, 0, 0, by norm_num, by norm_num, by norm_num⟩ =
        { MysqlTime.zero with hour := 596502, minute := 28, second := 16 } ∧
      (24856 : Int) * 3600 * 24 > 2 ^ 31 - 1 ∧
      (pydeltaToTm ⟨24856, 0, 0, by norm_num, by norm_num, by norm_num⟩).timeMicros ≠
        Timedelta.micros ⟨24856, 0, 0, by norm_num, by norm_num, by norm_num⟩ := by
  refine ⟨by decide, by norm_num, by decide⟩

end MariadbConnector
