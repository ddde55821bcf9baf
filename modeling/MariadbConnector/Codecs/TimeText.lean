import MariadbConnector.Codecs.Temporal

/-! `Py_str_to_TIME` on the server's renderings of DATE, DATETIME and TIME. -/

namespace MariadbConnector

open CString Decimal

/-! ### Digit runs -/

theorem isdigit_eq_false_iff (b : UInt8) : isdigit b = false ↔ (b < 48 ∨ 57 < b) := by
  simp only [isdigit, UInt8.lt_iff_toNat_lt, Bool.and_eq_false_iff, decide_eq_false_iff_not]
  simp

theorem not_digit_of_isdigit {b : UInt8} (hb : isdigit b = true) : ¬(b < 48 ∨ 57 < b) := by
  rw [← isdigit_eq_false_iff]
  simp [hb]

theorem le_foldl_digit (ds : List UInt8) (acc : Nat) :
    acc ≤ ds.foldl (fun v d => 10 * v + (d.toNat - 48)) acc := by
  induction ds generalizing acc with
  | nil => exact le_refl _
  | cons d ds ih =>
    rw [List.foldl_cons]
    exact le_trans (by omega) (ih _)

/-- A run of digits whose value stays below `2 ^ 64`, followed by a byte that is not a digit or
by the end, is read whole and without `ERANGE`. -/
theorem strtoullGo_digits (acc : Nat) {ds rest : List UInt8} (hds : ∀ b ∈ ds, isdigit b = true)
    (hr : ∀ b ∈ rest.head?, isdigit b = false)
    (hv : ds.foldl (fun v d => 10 * v + (d.toNat - 48)) acc < 2 ^ 64) :
    strtoullGo acc (ds ++ rest) =
      (ds.foldl (fun v d => 10 * v + (d.toNat - 48)) acc, ds.length, false) := by
  induction ds generalizing acc with
  | nil =>
    cases rest with
    | nil => rfl
    | cons b rest =>
      have hb := (isdigit_eq_false_iff b).mp (hr b rfl)
      simp [strtoullGo, hb]
  | cons d ds ih =>
    have hd := hds d List.mem_cons_self
    have hrange : 48 ≤ d.toNat ∧ d.toNat ≤ 57 := by simpa [isdigit] using hd
    rw [List.foldl_cons] at hv ⊢
    -- the value only grows, so no prefix of the run reaches `ERANGE`
    have hgrow := le_foldl_digit ds (10 * acc + (d.toNat - 48))
    have hno : ¬((2 ^ 64 - 1) / 10 < acc ∨ 2 ^ 64 - 1 - (d.toNat - 48) < acc * 10) := by
      omega
    rw [List.cons_append, strtoullGo, if_neg (not_digit_of_isdigit hd), if_neg hno,
      ih _ (fun b hb => hds b (List.mem_cons_of_mem d hb)) hv]
    simp

theorem myStrtoui_digits {ds rest : List UInt8} (hne : ds ≠ []) (hds : ∀ b ∈ ds, isdigit b = true)
    (hr : ∀ b ∈ rest.head?, isdigit b = false) (hv : digitsValue ds < 2 ^ 32) :
    myStrtoui (ds ++ rest) = (digitsValue ds, ds.length, false) := by
  have h64 : ds.foldl (fun v d => 10 * v + (d.toNat - 48)) 0 < 2 ^ 64 :=
    lt_trans hv (by norm_num)
  unfold myStrtoui
  rw [strtoullGo_digits 0 hds hr h64]
  have hlen : ds.length ≠ 0 := by simpa using hne
  simp only [digitsValue] at hv ⊢
  simp only [Nat.mod_eq_of_lt hv, hlen, Prod.mk.injEq, true_and, Bool.or_eq_false_iff,
    decide_eq_false_iff_not, not_false_eq_true]
  omega

theorem isdigit_of_mem_padded {w n : Nat} {b : UInt8} (hb : b ∈ padded w n) : isdigit b = true := by
  rcases List.mem_append.mp hb with hb | hb
  · rw [List.eq_of_mem_replicate hb]
    decide
  · exact isdigit_of_mem_digits hb

@[simp] theorem digitsValue_padded (w n : Nat) : digitsValue (padded w n) = n := by
  rw [padded, digitsValue_replicate_zero, digitsValue_digits]

theorem padded_ne_nil (w n : Nat) : padded w n ≠ [] := by
  simp [padded, digits_ne_nil]

theorem myStrtoui_padded (w : Nat) {n : Nat} (hn : n < 2 ^ 32) (rest : List UInt8)
    (hr : ∀ b ∈ rest.head?, isdigit b = false) :
    myStrtoui (padded w n ++ rest) = (n, (padded w n).length, false) := by
  rw [myStrtoui_digits (padded_ne_nil w n) (fun _ => isdigit_of_mem_padded) hr
    (by rw [digitsValue_padded]; exact hn), digitsValue_padded]

theorem length_padded {w n : Nat} (hw : 1 ≤ w) (hn : n < 10 ^ w) : (padded w n).length = w := by
  have hlen : (digits n).length ≤ w := by
    unfold digits
    split_ifs
    · simpa using hw
    · rw [List.length_map, List.length_reverse]
      exact (Nat.digits_length_le_iff (by norm_num) n).mpr hn
  simp only [padded, List.length_append, List.length_replicate]
  omega

theorem not_digit_head {b : UInt8} (hb : isdigit b = false) (l : List UInt8) :
    ∀ x ∈ (b :: l).head?, isdigit x = false := by
  simpa using hb

/-! ### The server's renderings -/

/-- A fraction of a second as the server writes it: a point and one to six digits. -/
structure Fraction where
  digits : Nat
  value : Nat
  one_le : 1 ≤ digits
  le_six : digits ≤ 6
  value_lt : value < 10 ^ digits

/-- The text of an optional fraction. -/
def Fraction.text : Option Fraction → List UInt8
  | none => []
  | some f => 46 :: padded f.digits f.value

/-- An optional fraction in microseconds: its digits times `10 ^ (6 - k)` for `k` digits. -/
def Fraction.micros : Option Fraction → Nat
  | none => 0
  | some f => f.value * 10 ^ (6 - f.digits)

/-- The clock of a DATETIME or a TIME: the hours in at least `width` digits, minutes and seconds
in two, and an optional fraction. -/
structure Clock where
  width : Nat
  hour : Nat
  minute : Nat
  second : Nat
  fraction : Option Fraction
  minute_le : minute ≤ 59
  second_le : second ≤ 59

/-- `h..h:mm:ss[.f..f]`. -/
def Clock.text (c : Clock) : List UInt8 :=
  padded c.width c.hour ++ 58 :: (padded 2 c.minute ++ 58 :: (padded 2 c.second ++
    Fraction.text c.fraction))

theorem not_digit_fraction (f : Option Fraction) :
    ∀ x ∈ (Fraction.text f).head?, isdigit x = false := by
  cases f with
  | none => simp [Fraction.text]
  | some f => exact not_digit_head (by decide) _

theorem myStrtoui_fraction (f : Fraction) :
    myStrtoui ((padded f.digits f.value).take (min 6 (padded f.digits f.value).length)) =
      (f.value, f.digits, false) ∧
      (if min 6 (padded f.digits f.value).length < 6 then
        f.value * fracMul (min 6 (padded f.digits f.value).length) else f.value) =
      Fraction.micros (some f) := by
  have hlen := length_padded f.one_le f.value_lt
  have hv : f.value < 2 ^ 32 := lt_of_lt_of_le f.value_lt
    (le_trans (Nat.pow_le_pow_right (by norm_num) f.le_six) (by norm_num))
  have hmin : min 6 (padded f.digits f.value).length = f.digits := by
    rw [hlen]
    exact min_eq_right f.le_six
  rw [hmin, List.take_of_length_le (le_of_eq hlen), ← List.append_nil (padded _ _),
    myStrtoui_padded f.digits hv [] (by simp), hlen]
  refine ⟨rfl, ?_⟩
  -- six digits are already microseconds
  simp only [Fraction.micros, fracMul]
  split_ifs with h6
  · rfl
  · have : f.digits = 6 := le_antisymm f.le_six (Nat.not_lt.mp h6)
    simp [this]

/-! ### `parse_time` and `parse_date` on the renderings -/

theorem parseTime_clock (c : Clock) (hh : c.hour ≤ 838) (tm : MysqlTime) :
    parseTime c.text tm =
      some { tm with
        hour := c.hour
        minute := c.minute
        second := c.second
        secondPart := Fraction.micros c.fraction } := by
  have hm := c.minute_le
  have hs := c.second_le
  have hH := myStrtoui_padded c.width (n := c.hour) (by omega)
    (58 :: (padded 2 c.minute ++ 58 :: (padded 2 c.second ++ Fraction.text c.fraction)))
    (not_digit_head (by decide) _)
  have hM := myStrtoui_padded 2 (n := c.minute) (by omega)
    (58 :: (padded 2 c.second ++ Fraction.text c.fraction)) (not_digit_head (by decide) _)
  have hS := myStrtoui_padded 2 (n := c.second) (by omega) (Fraction.text c.fraction)
    (not_digit_fraction c.fraction)
  simp only [parseTime, Clock.text, hH, List.drop_left, List.drop_succ_cons, List.drop_zero, hM,
    hS, List.head?_cons, ne_eq, not_true_eq_false, or_false, Bool.false_eq_true,
    Nat.not_lt.mpr hh, Nat.not_lt.mpr hm, Nat.not_lt.mpr hs, if_false]
  -- what follows the seconds: nothing, or the fraction
  cases c.fraction with
  | none => simp [Fraction.text, Fraction.micros]
  | some f =>
    obtain ⟨hf, hscale⟩ := myStrtoui_fraction f
    simp only [Fraction.text, List.head?_cons, List.drop_succ_cons, List.drop_zero, hf, hscale,
      not_true_eq_false, if_false, Bool.false_eq_true]

theorem DateValue.text_eq (v : DateValue) :
    v.text = padded 4 v.year ++ 45 :: (padded 2 v.month ++ 45 :: padded 2 v.day) := by
  simp [DateValue.text]

theorem parseDate_text (v : DateValue) (rest : List UInt8)
    (hr : ∀ b ∈ rest.head?, isdigit b = false) (tm : MysqlTime) :
    parseDate (v.text ++ rest) tm =
      some ({ tm with year := v.year, month := v.month, day := v.day }, rest) := by
  have hy := v.year_le
  have hm := v.month_le
  have hd := v.day_le
  have hY := myStrtoui_padded 4 (n := v.year) (by omega)
    (45 :: (padded 2 v.month ++ 45 :: (padded 2 v.day ++ rest))) (not_digit_head (by decide) _)
  have hM := myStrtoui_padded 2 (n := v.month) (by omega)
    (45 :: (padded 2 v.day ++ rest)) (not_digit_head (by decide) _)
  have hD := myStrtoui_padded 2 (n := v.day) (by omega) rest hr
  -- a four-digit year is never taken for a two-digit one
  have h4 : (padded 4 v.year).length = 4 := length_padded (by norm_num) (by omega)
  simp only [parseDate, DateValue.text, List.append_assoc, List.nil_append, List.cons_append, hY,
    List.drop_left' h4, List.drop_left, List.drop_succ_cons, List.drop_zero, hM, hD,
    List.head?_cons, h4, ne_eq, not_true_eq_false, or_false, Bool.false_eq_true,
    Nat.not_lt.mpr hy, Nat.not_lt.mpr hm, Nat.not_lt.mpr hd, if_false]
  rfl

/-! ### Telling a TIME from a DATE -/

theorem isTimeText_digits {ds : List UInt8} (hne : ds ≠ []) (hds : ∀ b ∈ ds, isdigit b = true)
    {b : UInt8} (hb : (b == 45 || b == 58) = true) (rest : List UInt8) :
    isTimeText (ds ++ b :: rest) = (b == 58) := by
  have hfind : ((ds.drop 1).find? fun b => b == 45 || b == 58) = none := by
    rw [List.find?_eq_none]
    intro x hx
    have hdig := hds x (List.mem_of_mem_drop hx)
    have hx' : 48 ≤ x.toNat ∧ x.toNat ≤ 57 := by simpa [isdigit] using hdig
    have h45 : x ≠ 45 := fun h => by simp [h] at hx'
    have h58 : x ≠ 58 := fun h => by simp [h] at hx'
    simp [h45, h58]
  have hlen : 1 ≤ ds.length := List.length_pos_iff.mpr hne
  simp only [isTimeText, List.drop_append_of_le_length hlen, List.find?_append, hfind,
    Option.none_or, List.find?_cons, hb]

theorem isTimeText_date (v : DateValue) (rest : List UInt8) : isTimeText (v.text ++ rest) = false := by
  simp only [DateValue.text, List.append_assoc, List.cons_append]
  exact isTimeText_digits (padded_ne_nil _ _) (fun _ => isdigit_of_mem_padded) (by decide) _

theorem isTimeText_clock (c : Clock) : isTimeText c.text = true :=
  isTimeText_digits (padded_ne_nil _ _) (fun _ => isdigit_of_mem_padded) (by decide) _

/-! ### Surrounding whitespace -/

theorem isspace_of_isdigit {b : UInt8} (hb : isdigit b = true) : isspace b = false := by
  simp only [isdigit, Bool.and_eq_true, decide_eq_true_eq] at hb
  simp only [isspace, Bool.or_eq_false_iff, beq_eq_false_iff_ne, Bool.and_eq_false_iff,
    decide_eq_false_iff_not]
  omega

theorem head?_padded_append (w n : Nat) (l : List UInt8) :
    ∀ b ∈ (padded w n ++ l).head?, isdigit b = true := by
  intro b hb
  rw [List.head?_append_of_ne_nil _ (padded_ne_nil w n)] at hb
  exact isdigit_of_mem_padded (List.mem_of_mem_head? hb)

theorem getLast?_append_padded (l : List UInt8) (w n : Nat) :
    ∀ b ∈ (l ++ padded w n).getLast?, isdigit b = true := by
  intro b hb
  rw [List.getLast?_append_of_ne_nil _ (padded_ne_nil w n)] at hb
  exact isdigit_of_mem_padded (List.mem_of_mem_getLast? hb)

theorem Clock.text_eq_append_padded (c : Clock) : ∃ l k v, c.text = l ++ padded k v := by
  unfold Clock.text
  cases c.fraction with
  | none => exact ⟨padded c.width c.hour ++ 58 :: (padded 2 c.minute ++ [58]), 2, c.second,
      by simp [Fraction.text]⟩
  | some f => exact ⟨padded c.width c.hour ++ 58 :: (padded 2 c.minute ++ 58 ::
      (padded 2 c.second ++ [46])), f.digits, f.value, by simp [Fraction.text]⟩

/-- The two loops of `Py_str_to_TIME` that skip whitespace remove exactly the whitespace around
a text that neither starts nor ends with a space. -/
theorem trim_spaces (pre suf : List UInt8) {body : List UInt8} (hpre : ∀ b ∈ pre, isspace b)
    (hsuf : ∀ b ∈ suf, isspace b) (hne : body ≠ [])
    (hhead : ∀ b ∈ body.head?, isspace b = false) (hlast : ∀ b ∈ body.getLast?, isspace b = false) :
    (((pre ++ body ++ suf).dropWhile isspace).reverse.dropWhile isspace).reverse = body := by
  -- the leading loop stops at the first byte of the body
  have hfront : (pre ++ body ++ suf).dropWhile isspace = body ++ suf := by
    rw [List.append_assoc, List.dropWhile_append_of_pos hpre]
    obtain ⟨b, l, rfl⟩ := List.exists_cons_of_ne_nil hne
    exact List.dropWhile_cons_of_neg (by simpa using hhead)
  -- the trailing loop stops at its last byte
  have hback : (suf.reverse ++ body.reverse).dropWhile isspace = body.reverse := by
    rw [List.dropWhile_append_of_pos (fun b hb => hsuf b (List.mem_reverse.mp hb))]
    obtain ⟨b, l, hbl⟩ := List.exists_cons_of_ne_nil (List.reverse_ne_nil_iff.mpr hne)
    have hb : isspace b = false := hlast b (by rw [← List.head?_reverse, hbl]; rfl)
    rw [hbl]
    exact List.dropWhile_cons_of_neg (by simp [hb])
  rw [hfront, List.reverse_append, hback, List.reverse_reverse]

/-! ### The renderings -/

/-- A temporal value as the server writes it in the text protocol. -/
inductive Rendering
  | date (v : DateValue)
  | datetime (v : DateValue) (c : Clock)
  | time (neg : Bool) (c : Clock)

/-- `YYYY-MM-DD`, `YYYY-MM-DD hh:mm:ss[.f..f]` and `[-]h..h:mm:ss[.f..f]`. -/
def Rendering.text : Rendering → List UInt8
  | .date v => v.text
  | .datetime v c => v.text ++ 32 :: c.text
  | .time neg c => (if neg then [45] else []) ++ c.text

/-- The hours the server writes: below `24` in a DATETIME, at most `838` in a TIME. -/
def Rendering.Valid : Rendering → Prop
  | .date _ => True
  | .datetime _ c => c.hour ≤ 23
  | .time _ c => c.hour ≤ 838

instance (r : Rendering) : Decidable r.Valid := by
  cases r <;> simp only [Rendering.Valid] <;> infer_instance

/-- The `MYSQL_TIME` a rendering writes down. -/
def Rendering.toTime : Rendering → MysqlTime
  | .date v =>
    { MysqlTime.zero with
      year := v.year
      month := v.month
      day := v.day
      timeType := .date }
  | .datetime v c =>
    { MysqlTime.zero with
      year := v.year
      month := v.month
      day := v.day
      hour := c.hour
      minute := c.minute
      second := c.second
      secondPart := Fraction.micros c.fraction
      timeType := .datetime }
  | .time neg c =>
    { MysqlTime.zero with
      hour := c.hour
      minute := c.minute
      second := c.second
      secondPart := Fraction.micros c.fraction
      neg := neg
      timeType := .time }

theorem Rendering.text_trimmed (r : Rendering) :
    r.text ≠ [] ∧ (∀ b ∈ r.text.head?, isspace b = false) ∧
      ∀ b ∈ r.text.getLast?, isspace b = false := by
  have hlast (l : List UInt8) (c : Clock) : ∀ b ∈ (l ++ c.text).getLast?, isspace b = false := by
    obtain ⟨l', k, v, hc⟩ := c.text_eq_append_padded
    intro b hb
    rw [hc, ← List.append_assoc] at hb
    exact isspace_of_isdigit (getLast?_append_padded _ k v b hb)
  have hdate (v : DateValue) (l : List UInt8) : ∀ b ∈ (v.text ++ l).head?, isspace b = false := by
    intro b hb
    rw [DateValue.text_eq, List.append_assoc] at hb
    exact isspace_of_isdigit (head?_padded_append 4 v.year _ b hb)
  cases r with
  | date v =>
    refine ⟨by simp [Rendering.text, DateValue.text], by simpa [Rendering.text] using hdate v [],
      fun b hb => isspace_of_isdigit (getLast?_append_padded _ 2 v.day b hb)⟩
  | datetime v c =>
    refine ⟨by simp [Rendering.text], hdate v _, ?_⟩
    have h := hlast (v.text ++ [32]) c
    rw [List.append_assoc, List.singleton_append] at h
    exact h
  | time neg c =>
    refine ⟨?_, ?_, hlast _ c⟩
    · cases neg <;> simp [Rendering.text, Clock.text]
    · intro b hb
      cases neg with
      | true =>
        simp only [Rendering.text, if_true, List.singleton_append, List.head?_cons,
          Option.mem_def, Option.some.injEq] at hb
        rw [← hb]
        decide
      | false =>
        exact isspace_of_isdigit (head?_padded_append c.width c.hour _ b (by
          simpa only [Rendering.text, Bool.false_eq_true, if_false, List.nil_append,
            Clock.text] using hb))

/-! ### `Py_str_to_TIME` on a rendering -/

theorem le_length_padded (w n : Nat) : w ≤ (padded w n).length := by
  simp only [padded, List.length_append, List.length_replicate]
  omega

theorem Clock.le_length_text (c : Clock) : 7 ≤ c.text.length := by
  have h1 := List.length_pos_iff.mpr (padded_ne_nil c.width c.hour)
  have h2 := le_length_padded 2 c.minute
  have h3 := le_length_padded 2 c.second
  simp only [Clock.text, List.length_append, List.length_cons]
  omega

theorem DateValue.le_length_text (v : DateValue) : 10 ≤ v.text.length := by
  have h1 := le_length_padded 4 v.year
  have h2 := le_length_padded 2 v.month
  have h3 := le_length_padded 2 v.day
  simp only [DateValue.text_eq, List.length_append, List.length_cons]
  omega

theorem head?_ne_minus {l : List UInt8} (h : ∀ b ∈ l.head?, isdigit b = true) :
    l.head? ≠ some 45 :=
  fun h45 => absurd (h 45 h45) (by decide)

theorem DateValue.head?_text (v : DateValue) (l : List UInt8) :
    ∀ b ∈ (v.text ++ l).head?, isdigit b = true := by
  rw [DateValue.text_eq, List.append_assoc]
  exact head?_padded_append 4 v.year _

theorem pyStrToTime_spaces (pre suf : List UInt8) {body : List UInt8}
    (hpre : ∀ b ∈ pre, isspace b) (hsuf : ∀ b ∈ suf, isspace b) (hne : body ≠ [])
    (hhead : ∀ b ∈ body.head?, isspace b = false) (hlast : ∀ b ∈ body.getLast?, isspace b = false) :
    pyStrToTime (pre ++ body ++ suf) = pyStrToTime body := by
  have hbody := trim_spaces [] [] (by simp) (by simp) hne hhead hlast
  rw [List.nil_append, List.append_nil] at hbody
  simp only [pyStrToTime, trim_spaces pre suf hpre hsuf hne hhead hlast, hbody]

theorem Rendering.trim_text (r : Rendering) :
    ((r.text.dropWhile isspace).reverse.dropWhile isspace).reverse = r.text := by
  obtain ⟨hne, hhead, hlast⟩ := r.text_trimmed
  simpa using trim_spaces [] [] (by simp) (by simp) hne hhead hlast

theorem pyStrToTime_date (v : DateValue) : pyStrToTime v.text = some (Rendering.date v).toTime := by
  have hlen : ¬v.text.length < 5 := Nat.not_lt.mpr (le_trans (by norm_num) v.le_length_text)
  have hp := parseDate_text v [] (by simp) MysqlTime.zero
  rw [List.append_nil] at hp
  have ht := isTimeText_date v []
  rw [List.append_nil] at ht
  have hbody := (Rendering.date v).trim_text
  simp only [Rendering.text] at hbody
  -- no space follows the day: a DATE
  simp only [pyStrToTime, hbody, hlen, if_false, head?_ne_minus (by simpa using v.head?_text []),
    ht, Bool.false_eq_true, hp, List.head?_nil, ne_eq, reduceCtorEq, not_false_eq_true, if_true]
  rfl

theorem pyStrToTime_datetime (v : DateValue) (c : Clock) (hh : c.hour ≤ 23) :
    pyStrToTime (v.text ++ 32 :: c.text) = some (Rendering.datetime v c).toTime := by
  have hlen : 5 ≤ (v.text ++ 32 :: c.text).length := by
    rw [List.length_append]
    exact le_trans (by norm_num : 5 ≤ 10) (Nat.le_add_right_of_le v.le_length_text)
  have hbody := (Rendering.datetime v c).trim_text
  simp only [Rendering.text] at hbody
  -- a space after the day: the clock of a DATETIME follows
  simp only [pyStrToTime, hbody, Nat.not_lt.mpr hlen, if_false, head?_ne_minus (v.head?_text _),
    isTimeText_date, Bool.false_eq_true,
    parseDate_text v (32 :: c.text) (not_digit_head (by decide) _) MysqlTime.zero,
    List.head?_cons, ne_eq, not_true_eq_false, List.drop_succ_cons, List.drop_zero,
    parseTime_clock c (by omega), Nat.not_lt.mpr hh]
  rfl

theorem pyStrToTime_time (neg : Bool) (c : Clock) (hh : c.hour ≤ 838) :
    pyStrToTime ((if neg then [45] else []) ++ c.text) = some (Rendering.time neg c).toTime := by
  have hlen : 5 ≤ c.text.length := le_trans (by norm_num) c.le_length_text
  have hbody := (Rendering.time neg c).trim_text
  simp only [Rendering.text] at hbody
  cases neg with
  | true =>
    -- a leading minus: a negative TIME
    simp only [if_true, List.singleton_append] at hbody ⊢
    simp only [pyStrToTime, hbody, List.length_cons, List.head?_cons,
      Nat.not_lt.mpr (Nat.le_succ_of_le hlen), if_false, if_true,
      List.drop_succ_cons, List.drop_zero, parseTime_clock c hh, Option.map_some]
    rfl
  | false =>
    -- the first delimiter after the hours is a colon: a TIME
    have hhd : c.text.head? ≠ some 45 := head?_ne_minus (head?_padded_append c.width c.hour _)
    simp only [Bool.false_eq_true, if_false, List.nil_append] at hbody ⊢
    simp only [pyStrToTime, hbody, Nat.not_lt.mpr hlen, if_false, hhd,
      isTimeText_clock, if_true, parseTime_clock c hh, Option.map_some]
    rfl

/-- `Py_str_to_TIME` reads every rendering back as the value it writes down, whatever whitespace
surrounds it. -/
theorem pyStrToTime_rendering (r : Rendering) (hr : r.Valid) {pre suf : List UInt8}
    (hpre : ∀ b ∈ pre, isspace b) (hsuf : ∀ b ∈ suf, isspace b) :
    pyStrToTime (pre ++ r.text ++ suf) = some r.toTime := by
  obtain ⟨hne, hhead, hlast⟩ := r.text_trimmed
  rw [pyStrToTime_spaces pre suf hpre hsuf hne hhead hlast]
  cases r with
  | date v => exact pyStrToTime_date v
  | datetime v c => exact pyStrToTime_datetime v c hr
  | time neg c => exact pyStrToTime_time neg c hr

/-! ### Any other text -/

theorem strtoullGo_lt (acc : Nat) (s : List UInt8) :
    (strtoullGo acc s).1 < (acc + 1) * 10 ^ (strtoullGo acc s).2.1 := by
  induction s generalizing acc with
  | nil => simp [strtoullGo]
  | cons b bs ih =>
    unfold strtoullGo
    split_ifs with hnd hov
    · simp
    · simp
    · have hb : b.toNat ≤ 57 := by
        simp only [UInt8.lt_iff_toNat_lt, not_or, not_lt] at hnd
        exact hnd.2
      have hrec := ih (10 * acc + (b.toNat - 48))
      calc (strtoullGo (10 * acc + (b.toNat - 48)) bs).1
          < (10 * acc + (b.toNat - 48) + 1) * 10 ^ (strtoullGo (10 * acc + (b.toNat - 48)) bs).2.1 :=
            hrec
        _ ≤ (acc + 1) * 10 * 10 ^ (strtoullGo (10 * acc + (b.toNat - 48)) bs).2.1 :=
            Nat.mul_le_mul_right _ (by omega)
        _ = (acc + 1) * 10 ^ ((strtoullGo (10 * acc + (b.toNat - 48)) bs).2.1 + 1) := by
            rw [pow_succ, Nat.mul_comm (10 ^ _) 10, Nat.mul_assoc]

theorem strtoullGo_taken_le (acc : Nat) (s : List UInt8) : (strtoullGo acc s).2.1 ≤ s.length := by
  induction s generalizing acc with
  | nil => simp [strtoullGo]
  | cons b bs ih =>
    unfold strtoullGo
    split_ifs
    · simp
    · simp
    · simpa using ih _

theorem myStrtoui_take_lt (s : List UInt8) (k : Nat) : (myStrtoui (s.take k)).1 < 10 ^ k := by
  have hlt := strtoullGo_lt 0 (s.take k)
  have hle := le_trans (strtoullGo_taken_le 0 (s.take k)) (List.length_take_le k s)
  calc (myStrtoui (s.take k)).1 ≤ (strtoullGo 0 (s.take k)).1 := Nat.mod_le _ _
    _ < 10 ^ (strtoullGo 0 (s.take k)).2.1 := by simpa using hlt
    _ ≤ 10 ^ k := Nat.pow_le_pow_right (by norm_num) hle

theorem mul_fracMul_lt {x k : Nat} (hx : x < 10 ^ k) (hk : k ≤ 6) : x * fracMul k < 10 ^ 6 := by
  unfold fracMul
  calc x * 10 ^ (6 - k) < 10 ^ k * 10 ^ (6 - k) := Nat.mul_lt_mul_of_pos_right hx (by positivity)
    _ = 10 ^ 6 := by rw [← pow_add, Nat.add_sub_cancel' hk]

theorem fraction_lt (s : List UInt8) : (myStrtoui (s.take (min 6 s.length))).1 < 10 ^ 6 :=
  lt_of_lt_of_le (myStrtoui_take_lt s _) (Nat.pow_le_pow_right (by norm_num) (min_le_left _ _))

theorem parseTime_eq_some {s : List UInt8} {tm tm' : MysqlTime} (h : parseTime s tm = some tm') :
    ∃ hour minute second secondPart,
      tm' = { tm with hour := hour, minute := minute, second := second, secondPart := secondPart } ∧
      hour ≤ 838 ∧ minute ≤ 59 ∧ second ≤ 59 ∧ secondPart < 10 ^ 6 := by
  unfold parseTime at h
  dsimp only at h
  -- the failed guards return `none`; four branches are left, one per way the seconds end
  split_ifs at h with h1 h2 h3 h4 h5 h6 <;>
    simp only [not_or, not_lt, Option.some.injEq] at h1 h2 h3 h <;> subst h
  · exact ⟨_, _, _, _, rfl, h1.2.1, h2.2.1, h3.2, by norm_num⟩
  · -- a fraction that does not parse keeps what `my_strtoui` returned
    exact ⟨_, _, _, _, rfl, h1.2.1, h2.2.1, h3.2, fraction_lt _⟩
  · exact ⟨_, _, _, _, rfl, h1.2.1, h2.2.1, h3.2, mul_fracMul_lt (myStrtoui_take_lt _ _)
      (min_le_left _ _)⟩
  · exact ⟨_, _, _, _, rfl, h1.2.1, h2.2.1, h3.2, fraction_lt _⟩

theorem parseDate_eq_some {s : List UInt8} {tm : MysqlTime} {r : MysqlTime × List UInt8}
    (h : parseDate s tm = some r) :
    ∃ year month day rest, r = ({ tm with year := year, month := month, day := day }, rest) ∧
      month ≤ 12 ∧ day ≤ 31 := by
  unfold parseDate at h
  dsimp only at h
  -- three branches are left, one per way the year is read
  split_ifs at h with h1 h2 h3 <;>
    simp only [not_or, not_lt, Option.some.injEq] at h2 h3 h <;> subst h <;>
    exact ⟨_, _, _, _, rfl, h2.2.1, h3.2⟩

/-- The fields `check_time` bounds, and the month and day `parse_date` bounds. -/
def MysqlTime.InRange (tm : MysqlTime) : Prop :=
  tm.month ≤ 12 ∧ tm.day ≤ 31 ∧ tm.hour ≤ 838 ∧ tm.minute ≤ 59 ∧ tm.second ≤ 59 ∧
    tm.secondPart ≤ 999999

instance (tm : MysqlTime) : Decidable tm.InRange := by
  unfold MysqlTime.InRange
  infer_instance

theorem parseTime_inRange {s : List UInt8} {tm tm' : MysqlTime} (h : parseTime s tm = some tm')
    (hm : tm.month ≤ 12) (hd : tm.day ≤ 31) : tm'.InRange := by
  obtain ⟨hour, minute, second, secondPart, rfl, hh, hmi, hs, hsp⟩ := parseTime_eq_some h
  exact ⟨hm, hd, hh, hmi, hs, (by omega : secondPart ≤ 999999)⟩

theorem inRange_time {s : List UInt8} {tm₀ tm : MysqlTime}
    (h : (parseTime s tm₀).map
      (fun tm => { tm with year := 0, month := 0, day := 0, timeType := .time }) = some tm) :
    tm.InRange := by
  obtain ⟨tm', hp, rfl⟩ := Option.map_eq_some_iff.mp h
  obtain ⟨hour, minute, second, secondPart, rfl, hh, hmi, hs, hsp⟩ := parseTime_eq_some hp
  exact ⟨Nat.zero_le _, Nat.zero_le _, hh, hmi, hs, (by omega : secondPart ≤ 999999)⟩

theorem pyStrToTime_inRange (s : List UInt8) : ∀ tm ∈ pyStrToTime s, tm.InRange := by
  intro tm htm
  unfold pyStrToTime at htm
  dsimp only at htm
  split_ifs at htm with hlen hneg htime
  · exact absurd htm (by simp)
  · exact inRange_time htm
  · exact inRange_time htm
  · -- a DATE, and the clock of a DATETIME when a space follows it
    split at htm
    · contradiction
    · rename_i tm₀ rest hdate
      obtain ⟨year, month, day, rest', hr, hm, hd⟩ := parseDate_eq_some hdate
      simp only [Prod.mk.injEq] at hr
      obtain ⟨rfl, rfl⟩ := hr
      split_ifs at htm with hsp
      · simp only [Option.mem_def, Option.some.injEq] at htm
        subst htm
        exact ⟨hm, hd, by norm_num, by norm_num, by norm_num, by norm_num⟩
      · split at htm
        · contradiction
        · rename_i tm₁ htime'
          split_ifs at htm with h23
          · exact absurd htm (by simp)
          · simp only [Option.mem_def, Option.some.injEq] at htm
            subst htm
            apply parseTime_inRange htime'
            · exact hm
            · exact hd

/-- **`Py_str_to_TIME` inverts the server's text rendering.** Every DATE, DATETIME and TIME the
server writes, with any whitespace around it, is read back as the `MYSQL_TIME` it writes down:
its type, its sign exactly when it starts with `-`, its fields, and its fraction scaled to
microseconds. On any text at all, the parser fails or fills only fields in range. -/
theorem str_to_time_inverts_rendering :
    (∀ (r : Rendering) (pre suf : List UInt8), r.Valid → (∀ b ∈ pre, isspace b) →
      (∀ b ∈ suf, isspace b) → pyStrToTime (pre ++ r.text ++ suf) = some r.toTime) ∧
    ∀ s : List UInt8, ∀ tm ∈ pyStrToTime s, tm.InRange :=
  ⟨fun r _ _ hr hpre hsuf => pyStrToTime_rendering r hr hpre hsuf, pyStrToTime_inRange⟩

/-- ` -12:34:56.5` followed by a newline: a negative TIME of half a second past. -/
theorem str_to_time_negative_fraction :
    pyStrToTime ([32] ++ (Rendering.time true ⟨2, 12, 34, 56, some ⟨1, 5, le_refl 1, by norm_num,
      by norm_num⟩, by norm_num, by norm_num⟩).text ++ [10]) =
      some { MysqlTime.zero with
        hour := 12
        minute := 34
        second := 56
        secondPart := 500000
        neg := true
        timeType := .time } :=
  str_to_time_inverts_rendering.1 _ _ _ (by decide) (by simp [isspace]) (by simp [isspace])

end MariadbConnector
